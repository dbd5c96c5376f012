import Mathlib.Data.List.Forall2
import JavadocTags.Proofs.Java.Segmentation
import JavadocTags.Proofs.Text.Positions

/-!
# What masking leaves in place

A masked text has the line feeds of the text where the text has them, so that positions are the
same in both. Each offset of a text lies in one segment, and what masking puts there is decided by
that segment alone.
-/
namespace JavadocTags.Java

/-- A character of a masked text and the one that it stands for. -/
def Masks (m c : Char) : Prop :=
  m = c ∨ (m = ' ' ∧ c ≠ '\n')

theorem Masks.isBlank {m c : Char} (h : Masks m c) (hc : Text.isBlank c = true) :
    Text.isBlank m = true := by
  rcases h with rfl | ⟨rfl, _⟩
  · exact hc
  · rfl

theorem Masks.advance {m c : Char} (h : Masks m c) (p : Text.Position) :
    p.advance m = p.advance c := by
  rcases h with rfl | ⟨rfl, hc⟩
  · rfl
  · rw [Text.Position.advance_of_ne p hc, Text.Position.advance_of_ne p (by decide)]

theorem forall₂_masked (s : Segment) : List.Forall₂ Masks s.masked s.text := by
  rw [masked_eq_map, List.forall₂_map_left_iff, List.forall₂_same]
  intro c _
  split
  · exact .inl rfl
  · rename_i h
    exact .inr ⟨rfl, (not_or.1 h).2⟩

theorem forall₂_flatMap_masked (segs : List Segment) :
    List.Forall₂ Masks (segs.flatMap Segment.masked) (segs.flatMap Segment.text) := by
  induction segs with
  | nil => exact .nil
  | cons s segs ih => exact List.rel_append (forall₂_masked s) ih

/-- Each character is kept or becomes a space, and line feeds are kept. -/
theorem forall₂_mask (text : List Char) : List.Forall₂ Masks (mask text) text := by
  have hsegments := forall₂_flatMap_masked (segments text)
  rwa [flatMap_segments] at hsegments

@[simp] theorem length_mask (text : List Char) : (mask text).length = text.length :=
  (forall₂_mask text).length_eq

theorem after_of_forall₂ {masked text : List Char} (h : List.Forall₂ Masks masked text)
    (p : Text.Position) : p.after masked = p.after text := by
  induction h generalizing p with
  | nil => rfl
  | cons hhead _ ih =>
      rw [Text.Position.after_cons, Text.Position.after_cons, hhead.advance, ih]

/-- Positions are the same in the masked text. -/
@[simp] theorem after_take_mask (p : Text.Position) (text : List Char) (offset : Nat) :
    p.after ((mask text).take offset) = p.after (text.take offset) :=
  after_of_forall₂ (List.forall₂_take offset (forall₂_mask text)) p

theorem masks_of_getElem? {text : List Char} {offset : Nat} {m : Char}
    (h : (mask text)[offset]? = some m) : ∃ c, text[offset]? = some c ∧ Masks m c := by
  obtain ⟨hlength, rfl⟩ := List.getElem?_eq_some_iff.1 h
  refine ⟨_, List.getElem?_eq_getElem (by rwa [← length_mask]), ?_⟩
  exact (List.forall₂_iff_get.1 (forall₂_mask text)).2 _ hlength _

theorem segments_of_append {text : List Char} {before after : List Segment}
    (h : segments text = before ++ after) :
    after = segments (text.drop (before.flatMap Segment.text).length) := by
  induction before generalizing text with
  | nil => exact h.symm
  | cons s before ih =>
      cases text with
      | nil =>
          rw [segments] at h
          cases h
      | cons c rest =>
          rw [segments, List.cons_append] at h
          obtain ⟨rfl, hrest⟩ := List.cons.inj h
          have htext : (c :: rest).drop (splitSegment c rest).1.text.length =
              (splitSegment c rest).2 := by
            rw [← splitSegment_append, List.drop_left]
          rw [List.flatMap_cons, List.length_append, ← List.drop_drop, htext]
          exact ih hrest

theorem text_eq_of_segments {text : List Char} {before after : List Segment} {s : Segment}
    (h : segments text = before ++ s :: after) :
    text = before.flatMap Segment.text ++ (s.text ++ after.flatMap Segment.text) := by
  rw [← List.flatMap_cons, ← List.flatMap_append, ← h, flatMap_segments]

theorem segment_bound {text : List Char} {before after : List Segment} {s : Segment}
    (h : segments text = before ++ s :: after) :
    (before.flatMap Segment.text).length + s.text.length ≤ text.length := by
  have hlength := congrArg List.length (text_eq_of_segments h)
  rw [List.length_append, List.length_append] at hlength
  omega

theorem exists_segment {text : List Char} {offset : Nat} (h : offset < text.length) :
    ∃ before s after, segments text = before ++ s :: after ∧
      (before.flatMap Segment.text).length ≤ offset ∧
      offset < (before.flatMap Segment.text).length + s.text.length := by
  rw [← flatMap_segments text] at h
  generalize segments text = segs at h
  induction segs generalizing offset with
  | nil => cases h
  | cons s segs ih =>
      by_cases hs : offset < s.text.length
      · exact ⟨[], s, segs, rfl, Nat.zero_le _, by simpa using hs⟩
      · rw [List.flatMap_cons, List.length_append] at h
        obtain ⟨before, t, after, rfl, hle, hlt⟩ :=
          ih (show offset - s.text.length < (segs.flatMap Segment.text).length by omega)
        refine ⟨s :: before, t, after, rfl, ?_, ?_⟩
        · rw [List.flatMap_cons, List.length_append]
          omega
        · rw [List.flatMap_cons, List.length_append]
          omega

theorem getElem?_mask {text : List Char} {before after : List Segment} {s : Segment}
    (h : segments text = before ++ s :: after) {offset : Nat}
    (hle : (before.flatMap Segment.text).length ≤ offset)
    (hlt : offset < (before.flatMap Segment.text).length + s.text.length) :
    (mask text)[offset]? = s.masked[offset - (before.flatMap Segment.text).length]? := by
  have hbefore := (forall₂_flatMap_masked before).length_eq
  rw [mask, h, List.flatMap_append, List.flatMap_cons,
    List.getElem?_append_right (by omega), hbefore, List.getElem?_append_left]
  rw [Segment.length_masked]
  omega

theorem isBlank_of_kind_ne_code {text : List Char} {before after : List Segment} {s : Segment}
    (h : segments text = before ++ s :: after) (hkind : s.kind ≠ .code) {offset : Nat}
    (hle : (before.flatMap Segment.text).length ≤ offset)
    (hlt : offset < (before.flatMap Segment.text).length + s.text.length) {m : Char}
    (hm : (mask text)[offset]? = some m) : Text.isBlank m = true := by
  rw [getElem?_mask h hle hlt, masked_eq_map] at hm
  obtain ⟨c, _, rfl⟩ := List.mem_map.1 (List.mem_of_getElem? hm)
  split
  · rename_i hc
    rw [hc.resolve_left hkind]
    rfl
  · rfl

/-- A comment or literal does not begin with a blank. -/
theorem Cut.isBlank_head {c : Char} {text rest : List Char} {kind : SegmentKind}
    (h : Cut (c :: text) kind rest) (hkind : kind ≠ .code) : Text.isBlank c = false := by
  cases h with
  | lineComment _ => rfl
  | blockComment _ => rfl
  | openBlockComment _ => rfl
  | textBlock _ => rfl
  | literal hquote _ _ =>
      rcases hquote with rfl | rfl
      · rfl
      · rfl
  | code _ _ _ _ => exact absurd rfl hkind

theorem exists_splitSegment {text : List Char} {before after : List Segment} {s : Segment}
    (h : segments text = before ++ s :: after) :
    ∃ c rest, text.drop (before.flatMap Segment.text).length = c :: rest ∧
      s = (splitSegment c rest).1 := by
  have hrest := segments_of_append h
  cases hdrop : text.drop (before.flatMap Segment.text).length with
  | nil =>
      rw [hdrop, segments] at hrest
      cases hrest
  | cons c rest =>
      rw [hdrop, segments] at hrest
      exact ⟨c, rest, rfl, (List.cons.inj hrest).1⟩

theorem isBlank_at_segment {text : List Char} {before after : List Segment} {s : Segment}
    (h : segments text = before ++ s :: after) (hkind : s.kind ≠ .code) :
    ∃ c, text[(before.flatMap Segment.text).length]? = some c ∧ Text.isBlank c = false := by
  obtain ⟨c, rest, hdrop, rfl⟩ := exists_splitSegment h
  refine ⟨c, ?_, (cut_splitSegment c rest).isBlank_head hkind⟩
  rw [← List.head?_drop, hdrop]
  rfl

/-- A line comment goes on to the end of its line. -/
theorem eq_lineComment {text line rest : List Char} {before after : List Segment} {s : Segment}
    (h : segments text = before ++ s :: after)
    (htext : text.drop (before.flatMap Segment.text).length = '/' :: '/' :: (line ++ rest))
    (hline : '\n' ∉ line) (hrest : rest = [] ∨ ∃ next, rest = '\n' :: next) :
    s = ⟨.lineComment, '/' :: '/' :: line⟩ := by
  obtain ⟨c, tail, hdrop, rfl⟩ := exists_splitSegment h
  rw [htext] at hdrop
  obtain ⟨rfl, rfl⟩ := List.cons.inj hdrop
  have hkept : ∀ c ∈ line, decide (c ≠ '\n') = true := by
    intro c hc
    rw [decide_eq_true_eq]
    rintro rfl
    exact hline hc
  have hbody : (line ++ rest).takeWhile (· ≠ '\n') = line := by
    rw [List.takeWhile_append_of_pos hkept]
    rcases hrest with rfl | ⟨next, rfl⟩
    · exact List.append_nil _
    · rw [List.takeWhile_cons_of_neg (by simp), List.append_nil]
  simp only [splitSegment, hbody]

end JavadocTags.Java
