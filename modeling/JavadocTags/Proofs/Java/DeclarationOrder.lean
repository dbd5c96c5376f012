import JavadocTags.Proofs.Java.NearestJavadoc

/-!
# The order of declarations

Tokens come line by line and from left to right, so no two of them stand at one place, and the
scanner reports declarations in the order of their first tokens. Each place is that of a character
of the text: it is in range, no blank, and no part of a comment or literal, since masking leaves
nothing but blanks there.
-/
namespace JavadocTags.Java

open Text (Position)

/-- One place comes before another: on an earlier line, or on the same line further left. -/
def Earlier (p q : Int × Int) : Prop :=
  p.1 < q.1 ∨ p.1 = q.1 ∧ p.2 < q.2

section Tokens

theorem tokensOfLine_pairwise (line column : Nat) (text : List Char) :
    (tokensOfLine line column text).Pairwise fun t u => Earlier t.place u.place := by
  fun_induction tokensOfLine line column text with
  | case1 => exact .nil
  | case2 column c rest hblank ih => exact ih
  | case3 column c rest hblank tail ih =>
      refine .cons ?_ ih
      intro u hu
      obtain ⟨before, _, _, _, _, _, hline, hcolumn⟩ := mem_tokensOfLine hu
      refine .inr ⟨?_, ?_⟩
      · simp only [Token.place, hline]
      · simp only [Token.place, hcolumn]
        omega

theorem line_le_of_mem_tokensFrom {t : Token} {line : Nat} {lines : List (List Char)}
    (h : t ∈ tokensFrom line lines) : line ≤ t.line := by
  induction lines generalizing line with
  | nil => cases h
  | cons text rest ih =>
      rw [tokensFrom, List.mem_append] at h
      rcases h with h | h
      · obtain ⟨_, _, _, _, _, _, hline, _⟩ := mem_tokensOfLine h
        exact Nat.le_of_eq hline.symm
      · exact Nat.le_of_succ_le (ih h)

theorem tokensFrom_pairwise (line : Nat) (lines : List (List Char)) :
    (tokensFrom line lines).Pairwise fun t u => Earlier t.place u.place := by
  induction lines generalizing line with
  | nil => exact .nil
  | cons text rest ih =>
      rw [tokensFrom, List.pairwise_append]
      refine ⟨tokensOfLine_pairwise line 0 text, ih (line + 1), ?_⟩
      intro t ht u hu
      obtain ⟨_, _, _, _, _, _, hline, _⟩ := mem_tokensOfLine ht
      have hlater := line_le_of_mem_tokensFrom hu
      refine .inl ?_
      simp only [Token.place]
      omega

end Tokens

/-- Declarations are read off the tokens in order, each token at most once. -/
theorem scan_pairwise (lines : List (List Char)) :
    (scan (tokens lines)).Pairwise fun d e => Earlier d.place e.place := by
  have htokens : ((tokens lines).map Token.place).Pairwise Earlier :=
    List.pairwise_map.2 (tokensFrom_pairwise 1 lines)
  exact List.pairwise_map.1 (htokens.sublist (scan_places_sublist (tokens lines)))

/-- Every character of a comment or literal is masked by a blank, so one that is left is code. -/
theorem exists_code_segment {text before after : List Char} {c : Char}
    (hmask : mask text = before ++ c :: after) (hc : Text.isBlank c = false) :
    ∃ front behind, segments text = front ++ ⟨.code, [c]⟩ :: behind ∧
      (front.flatMap Segment.text).length = before.length := by
  have hget : (mask text)[before.length]? = some c := by
    rw [hmask, List.getElem?_append_right (Nat.le_refl _), Nat.sub_self]
    rfl
  have hlength : before.length < text.length := by
    rw [← length_mask text, hmask, List.length_append, List.length_cons]
    omega
  obtain ⟨front, s, behind, hsegments, hle, hlt⟩ := exists_segment hlength
  have hkind : s.kind = .code := by
    by_contra hkind
    have hblank := isBlank_of_kind_ne_code hsegments hkind hle hlt hget
    rw [hc] at hblank
    cases hblank
  have hwidth : s.text.length = 1 :=
    (segmentation_segments text).code_length (by rw [hsegments]; simp) hkind
  have hmasked : s.masked = s.text := by rw [Segment.masked, hkind]
  have hstart : (front.flatMap Segment.text).length = before.length := by omega
  rw [getElem?_mask hsegments hle hlt, hmasked, hstart, Nat.sub_self] at hget
  obtain ⟨first, hfirst⟩ := List.length_eq_one_iff.1 hwidth
  rw [hfirst] at hget
  obtain rfl := Option.some.inj hget
  refine ⟨front, behind, ?_, hstart⟩
  rw [hsegments]
  obtain ⟨kind, chars⟩ := s
  simp only at hkind hfirst
  rw [hkind, hfirst]

/-- A character that is no blank is a character of its line, at the column of its offset. -/
theorem exists_line_of_char {text : List Char} {offset : Nat} {c : Char}
    (h : text[offset]? = some c) (hc : Text.isBlank c = false) :
    ∃ row, (Text.lines text)[(positionIn text offset).line - 1]? = some row ∧
      row[(positionIn text offset).column]? = some c := by
  obtain ⟨hlength, -⟩ := List.getElem?_eq_some_iff.1 h
  obtain ⟨start, row, after, htext, -, hrow, -, hoffset, hcolumn, hafter⟩ :=
    exists_line_of_offset (Nat.le_of_lt hlength)
  refine ⟨row, hrow, ?_⟩
  generalize (positionIn text offset).column = column at hoffset hcolumn
  rw [htext, hoffset, List.append_assoc, List.getElem?_append_right (Nat.le_add_right _ _),
    Nat.add_sub_cancel_left] at h
  rcases Nat.lt_or_eq_of_le hcolumn with hlt | rfl
  · rwa [List.getElem?_append_left hlt] at h
  · -- Behind the last character of a line there is nothing, or the end of the line.
    rw [List.getElem?_append_right (Nat.le_refl _), Nat.sub_self] at h
    rcases hafter with rfl | ⟨rest, rfl⟩
    · cases h
    · obtain rfl := Option.some.inj h
      cases hc

/-- A declaration stands at a character of code that is no blank and begins a token. -/
structure StandsAt (text : List Char) (d : Declaration) (line column : Nat) (c : Char) :
    Prop where
  line_eq : d.line = line + 1
  column_eq : d.column = column
  isBlank_eq : Text.isBlank c = false
  code : ∃ front behind, segments text = front ++ ⟨.code, [c]⟩ :: behind ∧
    positionIn text (front.flatMap Segment.text).length = ⟨line + 1, column⟩
  token : ∃ t ∈ tokens (Text.lines (mask text)), t.line = line + 1 ∧ t.column = column ∧
    t.text.toList.head? = some c

theorem exists_standsAt {text : List Char} {d : Declaration} (h : d ∈ declarations text) :
    ∃ line column c row, (Text.lines text)[line]? = some row ∧ row[column]? = some c ∧
      StandsAt text d line column c := by
  obtain ⟨t, ht, hline, hcolumn⟩ := exists_token_of_mem_scan h
  obtain ⟨before, c, after, hmask, hc, hhead, hposition⟩ := mem_tokensFrom ht
  obtain ⟨front, behind, hsegments, hfront⟩ := exists_code_segment hmask hc
  have htext : text = front.flatMap Segment.text ++ c :: behind.flatMap Segment.text :=
    text_eq_of_segments hsegments
  have hget : text[before.length]? = some c := by
    rw [← hfront, htext, List.getElem?_append_right (Nat.le_refl _), Nat.sub_self]
    rfl
  have hplace : positionIn text before.length = ⟨t.line, t.column⟩ := by
    rw [positionIn_eq (Nat.le_of_lt (List.getElem?_eq_some_iff.1 hget).1), ← after_take_mask, hmask,
      List.take_left]
    exact hposition
  obtain ⟨row, hrow, hchar⟩ := exists_line_of_char hget hc
  have hpos := positionIn_line_pos (Nat.le_of_lt (List.getElem?_eq_some_iff.1 hget).1)
  rw [hplace] at hrow hchar hpos
  simp only at hrow hchar hpos
  obtain ⟨line, hnumber⟩ := Nat.exists_eq_succ_of_ne_zero (Nat.ne_of_gt hpos)
  rw [hnumber] at hline hplace hrow
  refine ⟨line, t.column, c, row, hrow, hchar, ?_⟩
  exact
    { line_eq := hline
      column_eq := hcolumn
      isBlank_eq := hc
      code := ⟨front, behind, hsegments, by rw [hfront, hplace]⟩
      token := ⟨t, ht, hnumber, rfl, hhead⟩ }

theorem Earlier.ne {p q : Int × Int} (h : Earlier p q) : p ≠ q := by
  rintro rfl
  rcases h with h | ⟨_, h⟩ <;> omega

/-- The declarations of a source come in the order of their places, so that no two share one, and
each stands at a character of its line that is code, no blank and the first one of a token. -/
theorem declarations_in_order (path : String) (text : List Char) :
    let source := Source.ofText path text
    (source.declarations.Pairwise fun d e => Earlier d.place e.place) ∧
      (source.declarations.map Declaration.place).Nodup ∧
      ∀ d ∈ source.declarations, ∃ line column c row, source.lines[line]? = some row ∧
        row[column]? = some c ∧ StandsAt (Text.unifyLineEnds text) d line column c := by
  have horder : (Source.ofText path text).declarations.Pairwise fun d e =>
      Earlier d.place e.place := scan_pairwise _
  refine ⟨horder, List.pairwise_map.2 (horder.imp Earlier.ne), ?_⟩
  intro d hd
  obtain ⟨line, column, c, row, hrow, hchar, hstands⟩ := exists_standsAt hd
  refine ⟨line, column, c, row, ?_, hchar, hstands⟩
  rw [show (Source.ofText path text).lines =
    (Text.lines (Text.unifyLineEnds text)).toArray from rfl, List.getElem?_toArray]
  exact hrow

/-- A class in a comment, a brace in an argument of an annotation and one in a comment of a body. -/
def maskedBraces : List Char :=
  "/** class A */\n@X(\"\x7d\") enum E \x7b /* \x7d */ A, B;\n E() \x7b\x7d \x7d".toList

theorem declarations_maskedBraces : (Source.ofText "" maskedBraces).declarations =
    [⟨.enumType, "E", 2, 0⟩, ⟨.enumConstant, "A", 2, 25⟩, ⟨.enumConstant, "B", 2, 28⟩,
      ⟨.constructor, "E", 3, 1⟩] := by
  decide +kernel

/-- The constructor stands behind both braces. -/
theorem declarations_in_order_maskedBraces :
    ⟨.constructor, "E", 3, 1⟩ ∈ (Source.ofText "" maskedBraces).declarations ∧
      ∃ line column c row, (Source.ofText "" maskedBraces).lines[line]? = some row ∧
        row[column]? = some c ∧
        StandsAt (Text.unifyLineEnds maskedBraces) ⟨.constructor, "E", 3, 1⟩ line column c := by
  have hmem : ⟨.constructor, "E", 3, 1⟩ ∈ (Source.ofText "" maskedBraces).declarations := by
    rw [declarations_maskedBraces]
    simp
  exact ⟨hmem, (declarations_in_order "" maskedBraces).2.2 _ hmem⟩

end JavadocTags.Java
