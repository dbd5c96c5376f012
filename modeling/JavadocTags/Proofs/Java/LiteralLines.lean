import JavadocTags.Proofs.Java.JavadocLookup

/-!
# The lines that a literal blanks

A string or character literal that is never closed ends with its line, unless a backslash is the
last character of the line. The backslash takes the line feed along, and the literal goes on below.
So what is blanked for a literal stands on its first line exactly if no backslash takes a line feed
along, or only one that another line feed follows.
-/
namespace JavadocTags.Java

/-- In front of a character that is no line feed there is none. -/
def OneLine (text : List Char) : Prop :=
  ∀ (i : Nat) (c : Char), text[i]? = some c → c ≠ '\n' → '\n' ∉ text.take i

/-- A reading with escapes passes a backslash and a line feed, behind which the text goes on with
something other than a line feed. -/
def EscapesLineEnd (text : List Char) : Prop :=
  ∃ c rest, c ≠ '\n' ∧ Reached true text ('\\' :: '\n' :: c :: rest)

/-- What is blanked for a segment stands on the line that the segment begins on. -/
def BlanksOneLine (text : List Char) (before : List Segment) (s : Segment) : Prop :=
  ∀ offset : Nat, (before.flatMap Segment.text).length ≤ offset →
    offset < (before.flatMap Segment.text).length + s.text.length →
    (mask text)[offset]? = some ' ' →
    (positionIn text offset).line = (positionIn text (before.flatMap Segment.text).length).line

section Escapes
variable {c : Char} {text : List Char}

theorem oneLine_of_forall (h : ∀ c ∈ text, c = '\n') : OneLine text := by
  intro i c hc hne
  exact absurd (h c (List.mem_of_getElem? hc)) hne

theorem OneLine.cons (hc : c ≠ '\n') (h : OneLine text) : OneLine (c :: text) := by
  intro i d hd hne
  cases i with
  | zero => exact List.not_mem_nil
  | succ i =>
      rw [List.take_succ_cons, List.mem_cons, not_or]
      exact ⟨hc.symm, h i d hd hne⟩

theorem oneLine_singleton (c : Char) : OneLine [c] := by
  by_cases hc : c = '\n'
  · apply oneLine_of_forall
    simpa using hc
  · exact (oneLine_of_forall (by simp)).cons hc

theorem EscapesLineEnd.step (hc : c ≠ '\\') (h : EscapesLineEnd text) :
    EscapesLineEnd (c :: text) := by
  obtain ⟨d, rest, hd, hreached⟩ := h
  exact ⟨d, rest, hd, .step (fun _ => hc) hreached⟩

theorem EscapesLineEnd.pair (h : EscapesLineEnd text) : EscapesLineEnd ('\\' :: c :: text) := by
  obtain ⟨d, rest, hd, hreached⟩ := h
  exact ⟨d, rest, hd, .pair rfl hreached⟩

theorem EscapesLineEnd.isInfix (h : EscapesLineEnd text) : ['\\', '\n'] <:+: text := by
  obtain ⟨d, rest, _, hreached⟩ := h
  have hprefix : ['\\', '\n'] <+: '\\' :: '\n' :: d :: rest := ⟨d :: rest, rfl⟩
  exact hprefix.isInfix.trans hreached.suffix.isInfix

theorem EscapesLineEnd.not_oneLine (h : EscapesLineEnd text) (c : Char) :
    ¬ OneLine (c :: text) := by
  obtain ⟨d, rest, hd, hreached⟩ := h
  obtain ⟨front, rfl⟩ := hreached.suffix
  intro hline
  have hsplit : c :: (front ++ '\\' :: '\n' :: d :: rest) =
      (c :: (front ++ ['\\', '\n'])) ++ d :: rest := by simp
  rw [hsplit] at hline
  have hnone := hline (c :: (front ++ ['\\', '\n'])).length d
    (by rw [List.getElem?_append_right (Nat.le_refl _), Nat.sub_self]; rfl) hd
  rw [List.take_left] at hnone
  simp at hnone

end Escapes

section Literal
variable {quote : Char} {text : List Char}

theorem splitLiteralEnd_eq_lineFeed {tail : List Char}
    (h : (splitLiteralEnd quote text).1 = '\n' :: tail) : tail = [] := by
  fun_cases splitLiteralEnd quote text with
  | case1 => cases h
  | case2 c => exact (List.cons.inj h).2.symm
  | case3 c d rest hend =>
      rw [splitLiteralEnd, if_pos hend] at h
      exact (List.cons.inj h).2.symm
  | case4 d rest body after hrec hend =>
      rw [splitLiteralEnd, if_neg hend, if_pos rfl, hrec] at h
      cases h
  | case5 c d rest hend hc body after hrec =>
      rw [splitLiteralEnd, if_neg hend, if_neg hc, hrec] at h
      exact absurd (.inr (List.cons.inj h).1) hend

theorem oneLine_splitLiteralEnd (h : ¬ EscapesLineEnd (splitLiteralEnd quote text).1) :
    OneLine (splitLiteralEnd quote text).1 := by
  fun_induction splitLiteralEnd quote text with
  | case1 => exact oneLine_of_forall (by simp)
  | case2 c => exact oneLine_singleton c
  | case3 c d rest hend => exact oneLine_singleton c
  | case4 d rest body after hrec hend ih =>
      rw [hrec] at ih
      by_cases hd : d = '\n'
      · subst hd
        -- Behind the line feed comes nothing or another one, with which the literal ends.
        apply OneLine.cons (by decide)
        cases body with
        | nil => exact oneLine_singleton '\n'
        | cons e tail =>
            have he : e = '\n' := by
              apply Decidable.not_not.1
              intro hne
              exact h ⟨e, tail, hne, .here⟩
            subst he
            have htail : tail = [] := by
              apply splitLiteralEnd_eq_lineFeed
              rw [hrec]
            subst htail
            exact oneLine_of_forall (by simp)
      · exact ((ih (mt EscapesLineEnd.pair h)).cons hd).cons (by decide)
  | case5 c d rest hend hc body after hrec ih =>
      rw [hrec] at ih
      exact (ih (mt (EscapesLineEnd.step hc) h)).cons (not_or.1 hend).2

theorem splitSegment_literal {c : Char} (h : (splitSegment c text).1.kind = .literal quote) :
    quote ≠ '\n' ∧ (splitSegment c text).1.text = quote :: (splitLiteralEnd quote text).1 := by
  unfold splitSegment at h ⊢
  split at h
  · cases h
  · cases h
  · cases h
  · split at h
    · rename_i hquote
      cases h
      rw [if_pos hquote]
      refine ⟨?_, rfl⟩
      rcases hquote with rfl | rfl
      · decide
      · decide
    · cases h

end Literal

section Segments
variable {text : List Char} {before after : List Segment} {s : Segment} {offset : Nat}
  (h : segments text = before ++ s :: after)
  (hle : (before.flatMap Segment.text).length ≤ offset)
  (hlt : offset < (before.flatMap Segment.text).length + s.text.length)
include h hle hlt

/-- The lines inside a segment are counted from the one that it begins on. -/
theorem positionIn_line_of_segment :
    (positionIn text offset).line =
      (positionIn text (before.flatMap Segment.text).length).line +
        (s.text.take (offset - (before.flatMap Segment.text).length)).count '\n' := by
  have htext := text_eq_of_segments h
  have hbound := segment_bound h
  have htake : text.take offset = before.flatMap Segment.text ++
      s.text.take (offset - (before.flatMap Segment.text).length) := by
    rw [htext, List.take_append, List.take_of_length_le hle,
      List.take_append_of_le_length (by omega)]
  have hfirst : text.take (before.flatMap Segment.text).length = before.flatMap Segment.text := by
    rw [htext, List.take_left]
  rw [positionIn_line_eq (by omega), positionIn_line_eq (by omega), htake, hfirst,
    List.count_append, Nat.add_assoc]

theorem getElem?_mask_eq_space_iff (hkind : s.kind ≠ .code) :
    (mask text)[offset]? = some ' ' ↔
      ∃ c, s.text[offset - (before.flatMap Segment.text).length]? = some c ∧ c ≠ '\n' := by
  rw [getElem?_mask h hle hlt, masked_of_kind_ne_code hkind, blankOut, List.getElem?_map,
    Option.map_eq_some_iff]
  constructor
  · intro hspace
    obtain ⟨c, hc, hmap⟩ := hspace
    refine ⟨c, hc, ?_⟩
    intro hlineFeed
    rw [if_pos hlineFeed] at hmap
    cases hmap
  · intro hother
    obtain ⟨c, hc, hne⟩ := hother
    exact ⟨c, hc, if_neg hne⟩

end Segments

theorem blanksOneLine_iff {text : List Char} {before after : List Segment} {s : Segment}
    (h : segments text = before ++ s :: after) (hkind : s.kind ≠ .code) :
    BlanksOneLine text before s ↔ OneLine s.text := by
  constructor
  · intro hlines i c hc hne
    have hi := (List.getElem?_eq_some_iff.1 hc).1
    have hlt : (before.flatMap Segment.text).length + i <
        (before.flatMap Segment.text).length + s.text.length := by omega
    have hspace := (getElem?_mask_eq_space_iff h (Nat.le_add_right _ i) hlt hkind).2
      ⟨c, by rwa [Nat.add_sub_cancel_left], hne⟩
    have hline := hlines _ (Nat.le_add_right _ i) hlt hspace
    rw [positionIn_line_of_segment h (Nat.le_add_right _ i) hlt, Nat.add_sub_cancel_left] at hline
    apply List.count_eq_zero.1
    omega
  · intro hline offset hle hlt hspace
    obtain ⟨c, hc, hne⟩ := (getElem?_mask_eq_space_iff h hle hlt hkind).1 hspace
    rw [positionIn_line_of_segment h hle hlt, List.count_eq_zero.2 (hline _ c hc hne), Nat.add_zero]

/-- What is blanked for a string or character literal stands on the line of the opening quote,
exactly if the literal does not go on behind a line feed that a backslash takes along. -/
theorem literal_blanksOneLine_iff {text : List Char} {before after : List Segment} {s : Segment}
    {quote : Char} (h : segments text = before ++ s :: after) (hkind : s.kind = .literal quote) :
    BlanksOneLine text before s ↔ ¬ EscapesLineEnd s.text.tail := by
  obtain ⟨c, rest, _, hs⟩ := exists_splitSegment h
  have hliteral := hkind
  rw [hs] at hliteral
  obtain ⟨hquote, htext⟩ := splitSegment_literal hliteral
  rw [← hs] at htext
  rw [blanksOneLine_iff h (by simp [hkind]), htext, List.tail_cons]
  constructor
  · intro hline hescape
    exact hescape.not_oneLine quote hline
  · intro hescape
    exact (oneLine_splitLiteralEnd hescape).cons hquote

/-- A string literal with an escaped quote and no end, and code on the line below it. -/
def unclosedString : List Char :=
  "s = \"a\\\"b\nint i;".toList

theorem segments_unclosedString :
    segments unclosedString = segments "s = ".toList ++
      ⟨.literal '"', "\"a\\\"b\n".toList⟩ :: segments "int i;".toList := by
  cbv

theorem literal_blanksOneLine_iff_unclosedString :
    segments unclosedString = segments "s = ".toList ++
        ⟨.literal '"', "\"a\\\"b\n".toList⟩ :: segments "int i;".toList ∧
      BlanksOneLine unclosedString (segments "s = ".toList)
        ⟨.literal '"', "\"a\\\"b\n".toList⟩ := by
  refine ⟨segments_unclosedString, ?_⟩
  apply (literal_blanksOneLine_iff segments_unclosedString rfl).2
  intro hescape
  have hinfix := hescape.isInfix
  revert hinfix
  decide

/-- Each string and character literal of a text blanks one line. -/
def LiteralsBlankOneLine (text : List Char) : Prop :=
  ∀ before s after quote, segments text = before ++ s :: after → s.kind = .literal quote →
    BlanksOneLine text before s

/-- A character literal that a backslash at the line end carries on to a class. -/
def carriedLiteral : List Char :=
  "'\\\nclass A \x7b\x7d".toList

/-- A literal without an end blanks the class on the next line, which is not reported. -/
theorem not_literalsBlankOneLine :
    ¬ LiteralsBlankOneLine carriedLiteral ∧ declarations carriedLiteral = [] := by
  constructor
  · intro h
    have hsegments : segments carriedLiteral = [⟨.literal '\'', carriedLiteral⟩] := by cbv
    have hbelow : positionIn carriedLiteral 3 = ⟨2, 0⟩ := by cbv
    have hfirst : positionIn carriedLiteral 0 = ⟨1, 0⟩ := by cbv
    have hline := h [] ⟨.literal '\'', carriedLiteral⟩ [] '\'' hsegments rfl 3 (by decide)
      (by decide) (by cbv)
    rw [List.flatMap_nil, List.length_nil, hbelow, hfirst] at hline
    cases hline
  · cbv

end JavadocTags.Java
