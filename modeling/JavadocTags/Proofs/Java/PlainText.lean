import JavadocTags.Proofs.Java.Masking

/-!
# Texts without comments and literals

Masking leaves no quote and no beginning of a comment behind. A code character is kept only where
nothing begins in the text itself, and a blank next to it cannot complete a beginning. In a text
where nothing begins all is code, so a masked text is its own mask and has no Javadoc blocks.
-/
namespace JavadocTags.Java

/-- A text in which no comment and no literal begins. -/
inductive Plain : List Char → Prop
  | nil : Plain []
  | cons {c : Char} {text : List Char} :
      ¬ ['/', '/'] <+: c :: text → ¬ ['/', '*'] <+: c :: text → c ≠ '"' → c ≠ '\'' →
      Plain text → Plain (c :: text)

theorem plain_iff {text : List Char} : Plain text ↔
    '"' ∉ text ∧ '\'' ∉ text ∧ ¬ ['/', '/'] <:+: text ∧ ¬ ['/', '*'] <:+: text := by
  induction text with
  | nil => simp [Plain.nil]
  | cons c text ih =>
      simp only [List.mem_cons, List.infix_cons_iff, not_or]
      constructor
      · intro h
        cases h with
        | cons hline hblock hdouble hsingle hrest =>
            obtain ⟨hdoubles, hsingles, hlines, hblocks⟩ := ih.1 hrest
            exact ⟨⟨hdouble.symm, hdoubles⟩, ⟨hsingle.symm, hsingles⟩, ⟨hline, hlines⟩,
              ⟨hblock, hblocks⟩⟩
      · intro h
        obtain ⟨⟨hdouble, hdoubles⟩, ⟨hsingle, hsingles⟩, ⟨hline, hlines⟩, ⟨hblock, hblocks⟩⟩ := h
        apply Plain.cons hline hblock (Ne.symm hdouble) (Ne.symm hsingle)
        exact ih.2 ⟨hdoubles, hsingles, hlines, hblocks⟩

theorem plain_of_forall {text : List Char} (h : ∀ c ∈ text, c ≠ '/' ∧ c ≠ '"' ∧ c ≠ '\'') :
    Plain text := by
  induction text with
  | nil => exact .nil
  | cons c text ih =>
      rw [List.forall_mem_cons] at h
      obtain ⟨⟨hslash, hdouble, hsingle⟩, hrest⟩ := h
      apply Plain.cons
      · simp [Ne.symm hslash]
      · simp [Ne.symm hslash]
      · exact hdouble
      · exact hsingle
      · exact ih hrest

theorem flatMap_masked_code (text : List Char) :
    (text.map (Segment.mk .code [·])).flatMap Segment.masked = text := by
  induction text with
  | nil => rfl
  | cons c text ih =>
      rw [List.map_cons, List.flatMap_cons, ih]
      rfl

@[simp] theorem javadocSpansFrom_code (offset : Nat) (text : List Char) :
    javadocSpansFrom offset (text.map (Segment.mk .code [·])) = [] := by
  induction text generalizing offset with
  | nil => rfl
  | cons c text ih => exact ih (offset + 1)

namespace Plain
variable {text : List Char}

theorem segmentation (h : Plain text) : Segmentation text (text.map (Segment.mk .code [·])) := by
  induction h with
  | nil => exact .nil
  | @cons c text hline hblock hdouble hsingle _ ih =>
      exact @Segmentation.cons .code [c] text _ (.code hline hblock hdouble hsingle) ih

theorem segments_eq (h : Plain text) : segments text = text.map (Segment.mk .code [·]) :=
  h.segmentation.eq_segments.symm

theorem mask_eq (h : Plain text) : mask text = text := by
  rw [mask, h.segments_eq, flatMap_masked_code]

theorem javadocSpans_eq (h : Plain text) : javadocSpans text = [] := by
  rw [javadocSpans, h.segments_eq, javadocSpansFrom_code]

theorem blankOut_append (h : Plain text) (body : List Char) : Plain (blankOut body ++ text) := by
  induction body with
  | nil => exact h
  | cons c body ih =>
      rw [blankOut, List.map_cons, List.cons_append]
      split
      · exact .cons (by simp) (by simp) (by decide) (by decide) ih
      · exact .cons (by simp) (by simp) (by decide) (by decide) ih

end Plain

section Masked

theorem Masks.eq_of_ne {m c : Char} (h : Masks m c) (hm : m ≠ ' ') : m = c := by
  rcases h with rfl | ⟨hspace, _⟩
  · rfl
  · exact absurd hspace hm

/-- The character behind a kept one is the same as in the text or a space. -/
theorem not_prefix_of_masks {first c d : Char} {masked text : List Char} (hd : d ≠ ' ')
    (h : List.Forall₂ Masks masked text) (hno : ¬ [first, d] <+: c :: text) :
    ¬ [first, d] <+: c :: masked := by
  intro hprefix
  apply hno
  cases h with
  | nil => exact hprefix
  | @cons m e masked text hhead _ =>
      rw [List.cons_prefix_cons, List.cons_prefix_cons] at hprefix ⊢
      obtain ⟨hfirst, hsecond, _⟩ := hprefix
      rw [← hsecond] at hhead
      exact ⟨hfirst, hhead.eq_of_ne hd, List.nil_prefix⟩

theorem Segmentation.flatMap_text {text : List Char} {segs : List Segment}
    (h : Segmentation text segs) : segs.flatMap Segment.text = text := by
  rw [h.eq_segments, flatMap_segments]

theorem Segmentation.plain_masked {text : List Char} {segs : List Segment}
    (h : Segmentation text segs) : Plain (segs.flatMap Segment.masked) := by
  induction h with
  | nil => exact .nil
  | @cons kind body rest segs hcut hsegs ih =>
      have hmasks := forall₂_flatMap_masked segs
      rw [hsegs.flatMap_text] at hmasks
      rw [List.flatMap_cons]
      by_cases hkind : kind = .code
      · subst hkind
        obtain ⟨c, rfl, hline, hblock, hdouble, hsingle⟩ := hcut.exists_code
        apply Plain.cons
        · exact not_prefix_of_masks (by decide) hmasks hline
        · exact not_prefix_of_masks (by decide) hmasks hblock
        · exact hdouble
        · exact hsingle
        · exact ih
      · rw [masked_of_kind_ne_code hkind]
        exact ih.blankOut_append body

end Masked

theorem plain_mask (text : List Char) : Plain (mask text) :=
  (segmentation_segments text).plain_masked

/-- Masking changes every text in which a comment or a literal begins, and no other. -/
theorem mask_eq_self_iff {text : List Char} : mask text = text ↔ Plain text := by
  constructor
  · intro h
    rw [← h]
    exact plain_mask text
  · exact Plain.mask_eq

theorem getElem?_mask_cases (text : List Char) (offset : Nat) :
    (mask text)[offset]? = text[offset]? ∨
      ((mask text)[offset]? = some ' ' ∧ text[offset]? ≠ some '\n') := by
  cases hm : (mask text)[offset]? with
  | none =>
      rw [List.getElem?_eq_none_iff, length_mask, ← List.getElem?_eq_none_iff] at hm
      exact .inl hm.symm
  | some m =>
      obtain ⟨c, hc, hmasks⟩ := masks_of_getElem? hm
      rw [hc]
      rcases hmasks with rfl | ⟨rfl, hne⟩
      · exact .inl rfl
      · exact .inr ⟨rfl, fun heq => hne (Option.some.inj heq)⟩

theorem getElem?_mask_lineFeed_iff (text : List Char) (offset : Nat) :
    (mask text)[offset]? = some '\n' ↔ text[offset]? = some '\n' := by
  rcases getElem?_mask_cases text offset with hkept | ⟨hspace, hne⟩
  · rw [hkept]
  · rw [hspace]
    constructor
    · intro h
      cases h
    · intro h
      exact absurd h hne

/-- A masked text is as long as the text and has its line feeds where the text has them. Every
other character is kept or a space. No quote and no beginning of a comment is left, so masking the
masked text changes nothing and finds no Javadoc block. -/
theorem mask_layout_and_fixed (text : List Char) :
    (mask text).length = text.length ∧
      (∀ offset : Nat, (mask text)[offset]? = some '\n' ↔ text[offset]? = some '\n') ∧
      (∀ offset : Nat, (mask text)[offset]? = text[offset]? ∨ (mask text)[offset]? = some ' ') ∧
      '"' ∉ mask text ∧ '\'' ∉ mask text ∧
      ¬ ['/', '/'] <:+: mask text ∧ ¬ ['/', '*'] <:+: mask text ∧
      mask (mask text) = mask text ∧ javadocSpans (mask text) = [] := by
  have hplain := plain_mask text
  obtain ⟨hdouble, hsingle, hline, hblock⟩ := plain_iff.1 hplain
  refine ⟨length_mask text, getElem?_mask_lineFeed_iff text, ?_, hdouble, hsingle, hline, hblock,
    mask_eq_self_iff.2 hplain, hplain.javadocSpans_eq⟩
  intro offset
  exact (getElem?_mask_cases text offset).imp_right And.left

end JavadocTags.Java
