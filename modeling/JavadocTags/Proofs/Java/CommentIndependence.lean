import Mathlib.Data.List.Permutation
import JavadocTags.Java.Source
import JavadocTags.Proofs.Java.Masking
import JavadocTags.Proofs.Java.TokenTexts

/-!
# Comments and literals do not influence the declarations

Two texts have the same code if their code characters are the same and comments or literals stand
at the same places between them. Masked, such texts differ in the length and the line ends of
their gaps at most. No token reaches into a gap, so the texts of the tokens are the same, and with
them the kinds and names of the declarations. Gaps of one layout leave the places alone as well.
-/
namespace JavadocTags.Java

/-- What stands in a masked text for the characters of a comment or literal. -/
def IsGap (c : Char) : Prop :=
  c = ' ' ∨ c = '\n'

section Gap
variable {c : Char}

theorem IsGap.isBlank (h : IsGap c) : Text.isBlank c = true := by
  rcases h with rfl | rfl
  · rfl
  · rfl

theorem IsGap.not_continuesWord (h : IsGap c) : ¬ continuesWord c = true := by
  rcases h with rfl | rfl
  · decide
  · decide

theorem IsGap.not_continuesNumber (h : IsGap c) : ¬ continuesNumber c = true := by
  rcases h with rfl | rfl
  · decide
  · decide

theorem isGap_of_mem_blankOut {text : List Char} (h : c ∈ blankOut text) : IsGap c := by
  obtain ⟨d, _, rfl⟩ := List.mem_map.1 h
  split
  · exact .inr rfl
  · exact .inl rfl

end Gap

/-- The texts of the tokens of a text, with line feeds read as blanks. -/
def tokenTexts (text : List Char) : List String :=
  (tokensOfLine 0 0 text).map Token.text

theorem map_text_tokensOfLine (line column : Nat) (text : List Char) :
    (tokensOfLine line column text).map Token.text = tokenTexts text := by
  have hplace : ∀ column', (tokensOfLine line column text).map Token.text =
      (tokensOfLine 0 column' text).map Token.text := by
    fun_induction tokensOfLine line column text with
    | case1 => simp [tokensOfLine]
    | case2 column c rest hblank ih =>
        intro column'
        rw [tokensOfLine, if_pos hblank]
        exact ih (column' + 1)
    | case3 column c rest hblank tail ih =>
        intro column'
        rw [tokensOfLine, if_neg hblank, List.map_cons, List.map_cons]
        exact congrArg _ (ih _)
  exact hplace 0

@[simp] theorem tokenTexts_cons_gap {c : Char} (hgap : IsGap c) (rest : List Char) :
    tokenTexts (c :: rest) = tokenTexts rest := by
  rw [tokenTexts, tokensOfLine, if_pos hgap.isBlank, map_text_tokensOfLine]

theorem tokenTexts_of_gap {gap : List Char} (h : ∀ c ∈ gap, IsGap c) (rest : List Char) :
    tokenTexts (gap ++ rest) = tokenTexts rest := by
  induction gap with
  | nil => rfl
  | cons c gap ih =>
      rw [List.forall_mem_cons] at h
      rw [List.cons_append, tokenTexts_cons_gap h.1, ih h.2]

theorem takeWhile_append_stop {p : Char → Bool} {c : Char} (hstop : ¬ p c = true)
    (front rest : List Char) :
    (front ++ c :: rest).takeWhile p = front.takeWhile p ∧
      (front ++ c :: rest).dropWhile p = front.dropWhile p ++ c :: rest := by
  induction front with
  | nil => simp [hstop]
  | cons d front ih =>
      by_cases hd : p d = true
      · simp [hd, ih]
      · simp [hd]

/-- No token reaches across a gap. -/
theorem splitLexeme_append_gap {c : Char} (hgap : IsGap c) (first : Char)
    (front rest : List Char) :
    splitLexeme first (front ++ c :: rest) =
      ((splitLexeme first front).1, (splitLexeme first front).2 ++ c :: rest) := by
  unfold splitLexeme
  split
  · rw [(takeWhile_append_stop hgap.not_continuesWord front rest).1,
      (takeWhile_append_stop hgap.not_continuesWord front rest).2]
  · split
    · rw [(takeWhile_append_stop hgap.not_continuesNumber front rest).1,
        (takeWhile_append_stop hgap.not_continuesNumber front rest).2]
    · have hne : c ≠ '.' ∧ c ≠ ':' ∧ c ≠ '>' := by
        rcases hgap with rfl | rfl
        · decide
        · decide
      -- no symbol is longer than three characters, the first of which has been read
      match front with
      | [] => grind
      | [a] => grind
      | a :: b :: front => grind

theorem tokenTexts_append_gap {c : Char} (hgap : IsGap c) (front rest : List Char) :
    tokenTexts (front ++ c :: rest) = tokenTexts front ++ tokenTexts rest := by
  have hplace : ∀ column, (tokensOfLine 0 column (front ++ c :: rest)).map Token.text =
      (tokensOfLine 0 column front).map Token.text ++ tokenTexts rest := by
    intro column
    fun_induction tokensOfLine 0 column front with
    | case1 => rw [List.nil_append, map_text_tokensOfLine, tokenTexts_cons_gap hgap]; rfl
    | case2 column d front hblank ih => rw [List.cons_append, tokensOfLine, if_pos hblank, ih]
    | case3 column d front hblank tail ih =>
        rw [List.cons_append, tokensOfLine, if_neg hblank, splitLexeme_append_gap hgap]
        simp only [List.map_cons, List.cons_append]
        rw [ih]
  exact hplace 0

/-- The tokens before and behind a gap are found independently, whatever the gap. -/
theorem tokenTexts_around_gap {gap : List Char} (hne : gap ≠ []) (hgap : ∀ c ∈ gap, IsGap c)
    (front rest : List Char) :
    tokenTexts (front ++ (gap ++ rest)) = tokenTexts front ++ tokenTexts rest := by
  cases gap with
  | nil => exact absurd rfl hne
  | cons c gap =>
      rw [List.forall_mem_cons] at hgap
      rw [List.cons_append, tokenTexts_append_gap hgap.1, tokenTexts_of_gap hgap.2]

/-- Cutting a text into lines leaves the texts of its tokens as they are. -/
theorem map_text_tokensFrom (line : Nat) (text : List Char) :
    (tokensFrom line (Text.lines text)).map Token.text = tokenTexts text := by
  induction text using Text.lines_induction generalizing line with
  | last text hline =>
      rw [Text.lines_of_not_mem hline, tokensFrom, tokensFrom, List.append_nil,
        map_text_tokensOfLine]
  | line text rest hline ih =>
      rw [Text.lines_append hline, tokensFrom, List.map_append, map_text_tokensOfLine, ih,
        tokenTexts_append_gap (.inr rfl)]

/-- Segments with the same code characters in the same order and with comments or literals at the
same places between them. What stands at such a place on either side is related by `fits`. -/
inductive SameCode (fits : List Char → List Char → Prop) : List Segment → List Segment → Prop
  | nil : SameCode fits [] []
  | code {s : Segment} {rest rest' : List Segment} (hs : s.kind = .code)
      (hrest : SameCode fits rest rest') : SameCode fits (s :: rest) (s :: rest')
  | gap {run run' rest rest' : List Segment} (hne : run ≠ []) (hne' : run' ≠ [])
      (hrun : ∀ s ∈ run, s.kind ≠ .code) (hrun' : ∀ s ∈ run', s.kind ≠ .code)
      (hfits : fits (run.flatMap Segment.text) (run'.flatMap Segment.text))
      (hrest : SameCode fits rest rest') : SameCode fits (run ++ rest) (run' ++ rest')

/-- Texts of one length with their line feeds at the same places. -/
def SameLayout (text text' : List Char) : Prop :=
  List.Forall₂ (fun c d => c = '\n' ↔ d = '\n') text text'

theorem SameLayout.blankOut {text text' : List Char} (h : SameLayout text text') :
    blankOut text = blankOut text' := by
  induction h with
  | nil => rfl
  | cons hhead _ ih =>
      rw [Java.blankOut, Java.blankOut] at ih ⊢
      rw [List.map_cons, List.map_cons, ih]
      simp only [hhead]

theorem flatMap_masked_run {run : List Segment} (hrun : ∀ s ∈ run, s.kind ≠ .code) :
    run.flatMap Segment.masked = blankOut (run.flatMap Segment.text) := by
  induction run with
  | nil => rfl
  | cons s run ih =>
      rw [List.forall_mem_cons] at hrun
      rw [List.flatMap_cons, List.flatMap_cons, ih hrun.2, masked_of_kind_ne_code hrun.1, blankOut,
        blankOut, blankOut, List.map_append]

theorem text_ne_nil_of_mem_segments {text : List Char} {s : Segment} (h : s ∈ segments text) :
    s.text ≠ [] := by
  fun_induction segments text with
  | case1 => exact absurd h List.not_mem_nil
  | case2 c rest ih =>
      rcases List.mem_cons.1 h with rfl | h
      · exact splitSegment_text_ne_nil c rest
      · exact ih h

/-- Gaps of one layout are masked alike. -/
theorem SameCode.flatMap_masked {segs segs' : List Segment} (h : SameCode SameLayout segs segs') :
    segs.flatMap Segment.masked = segs'.flatMap Segment.masked := by
  induction h with
  | nil => rfl
  | code hs _ ih => rw [List.flatMap_cons, List.flatMap_cons, ih]
  | gap hne hne' hrun hrun' hfits _ ih =>
      rw [List.flatMap_append, List.flatMap_append, flatMap_masked_run hrun,
        flatMap_masked_run hrun', hfits.blankOut, ih]

theorem masked_run_ne_nil {run : List Segment} (hne : run ≠ [])
    (htext : ∀ s ∈ run, s.text ≠ []) : run.flatMap Segment.masked ≠ [] := by
  cases run with
  | nil => exact absurd rfl hne
  | cons s run =>
      intro h
      rw [List.flatMap_cons, List.append_eq_nil_iff, ← List.length_eq_zero_iff,
        Segment.length_masked, List.length_eq_zero_iff] at h
      exact htext s List.mem_cons_self h.1

/-- Whatever is read in front of the segments: the last word of it may go on in the code. -/
theorem SameCode.tokenTexts {fits : List Char → List Char → Prop} {segs segs' : List Segment}
    (h : SameCode fits segs segs') (htext : ∀ s ∈ segs, s.text ≠ [])
    (htext' : ∀ s ∈ segs', s.text ≠ []) (front : List Char) :
    tokenTexts (front ++ segs.flatMap Segment.masked) =
      tokenTexts (front ++ segs'.flatMap Segment.masked) := by
  induction h generalizing front with
  | nil => rfl
  | code hs _ ih =>
      rw [List.forall_mem_cons] at htext htext'
      rw [List.flatMap_cons, List.flatMap_cons, ← List.append_assoc, ← List.append_assoc]
      exact ih htext.2 htext'.2 _
  | gap hne hne' hrun hrun' _ _ ih =>
      rw [List.forall_mem_append] at htext htext'
      have hgap := flatMap_masked_run hrun
      have hgap' := flatMap_masked_run hrun'
      rw [List.flatMap_append, List.flatMap_append,
        tokenTexts_around_gap (masked_run_ne_nil hne htext.1)
          (fun c hc => isGap_of_mem_blankOut (hgap ▸ hc)),
        tokenTexts_around_gap (masked_run_ne_nil hne' htext'.1)
          (fun c hc => isGap_of_mem_blankOut (hgap' ▸ hc))]
      exact congrArg _ (ih htext.2 htext'.2 [])

/-- Texts with the same code have the same declarations but for the places, and with gaps of one
layout the same places too. -/
theorem declarations_of_sameCode (path path' : String) (text text' : List Char) :
    (SameCode (fun _ _ => True) (segments (Text.unifyLineEnds text))
        (segments (Text.unifyLineEnds text')) →
      (Source.ofText path text).declarations.map Declaration.signature =
        (Source.ofText path' text').declarations.map Declaration.signature) ∧
    (SameCode SameLayout (segments (Text.unifyLineEnds text))
        (segments (Text.unifyLineEnds text')) →
      (Source.ofText path text).declarations = (Source.ofText path' text').declarations) := by
  constructor
  · intro h
    apply scan_signature_of_texts
    have hmask := h.tokenTexts (fun _ => text_ne_nil_of_mem_segments)
      (fun _ => text_ne_nil_of_mem_segments) []
    rw [tokens, tokens, map_text_tokensFrom, map_text_tokensFrom]
    exact hmask
  · intro h
    have hmask : mask (Text.unifyLineEnds text) = mask (Text.unifyLineEnds text') :=
      h.flatMap_masked
    show declarations _ = declarations _
    rw [declarations, declarations, hmask]

/-- Segments that begin with the same code and go on in step. -/
theorem SameCode.append {fits : List Char → List Char → Prop} {code rest rest' : List Segment}
    (hcode : ∀ s ∈ code, s.kind = .code) (h : SameCode fits rest rest') :
    SameCode fits (code ++ rest) (code ++ rest') := by
  induction code with
  | nil => exact h
  | cons s code ih =>
      rw [List.forall_mem_cons] at hcode
      exact .code hcode.1 (ih hcode.2)

def classAround (gap : String) : List Char :=
  ("class A \x7b" ++ gap ++ "int f() \x7b\x7d\x7d").toList

theorem sameCode_classAround {fits : List Char → List Char → Prop} {gap gap' : String}
    (s s' : Segment)
    (hs : segments (Text.unifyLineEnds (classAround gap)) =
      segments "class A \x7b".toList ++ ([s] ++ segments "int f() \x7b\x7d\x7d".toList))
    (hs' : segments (Text.unifyLineEnds (classAround gap')) =
      segments "class A \x7b".toList ++ ([s'] ++ segments "int f() \x7b\x7d\x7d".toList))
    (hkind : s.kind ≠ .code) (hkind' : s'.kind ≠ .code) (hfits : fits s.text s'.text) :
    SameCode fits (segments (Text.unifyLineEnds (classAround gap)))
      (segments (Text.unifyLineEnds (classAround gap'))) := by
  have hfront : (segments "class A \x7b".toList).all (·.kind = .code) = true := by cbv
  have hback : (segments "int f() \x7b\x7d\x7d".toList).all (·.kind = .code) = true := by cbv
  simp only [List.all_eq_true, decide_eq_true_eq] at hfront hback
  have hrest : SameCode fits (segments "int f() \x7b\x7d\x7d".toList ++ [])
      (segments "int f() \x7b\x7d\x7d".toList ++ []) := .append hback .nil
  rw [List.append_nil] at hrest
  rw [hs, hs']
  refine .append hfront (.gap (List.cons_ne_nil _ _) (List.cons_ne_nil _ _) ?_ ?_ ?_ hrest)
  · simpa using hkind
  · simpa using hkind'
  · simpa using hfits

/-- A comment and a literal without an end, each with code in it; and a block comment and a text
block of one layout. -/
theorem declarations_of_sameCode_classAround :
    (SameCode (fun _ _ => True)
        (segments (Text.unifyLineEnds (classAround "/* class B \x7b */")))
        (segments (Text.unifyLineEnds (classAround "\"\x7d\n"))) ∧
      (Source.ofText "" (classAround "/* class B \x7b */")).declarations.map
          Declaration.signature =
        (Source.ofText "" (classAround "\"\x7d\n")).declarations.map Declaration.signature) ∧
    (SameCode SameLayout
        (segments (Text.unifyLineEnds (classAround "/**\n\x7d\x7d*/")))
        (segments (Text.unifyLineEnds (classAround "\"\"\"\n;\"\"\""))) ∧
      (Source.ofText "" (classAround "/**\n\x7d\x7d*/")).declarations =
        (Source.ofText "" (classAround "\"\"\"\n;\"\"\"")).declarations) := by
  have hcode : SameCode (fun _ _ => True)
      (segments (Text.unifyLineEnds (classAround "/* class B \x7b */")))
      (segments (Text.unifyLineEnds (classAround "\"\x7d\n"))) :=
    sameCode_classAround ⟨.blockComment true, "/* class B \x7b */".toList⟩
      ⟨.literal '"', "\"\x7d\n".toList⟩ (by cbv) (by cbv) (by decide) (by decide) trivial
  have hlayout : SameCode SameLayout
      (segments (Text.unifyLineEnds (classAround "/**\n\x7d\x7d*/")))
      (segments (Text.unifyLineEnds (classAround "\"\"\"\n;\"\"\""))) :=
    sameCode_classAround ⟨.blockComment true, "/**\n\x7d\x7d*/".toList⟩
      ⟨.textBlock, "\"\"\"\n;\"\"\"".toList⟩ (by cbv) (by cbv) (by decide) (by decide)
      (by unfold SameLayout; decide)
  exact ⟨⟨hcode, (declarations_of_sameCode _ _ _ _).1 hcode⟩,
    ⟨hlayout, (declarations_of_sameCode _ _ _ _).2 hlayout⟩⟩

end JavadocTags.Java
