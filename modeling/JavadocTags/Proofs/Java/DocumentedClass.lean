import JavadocTags.Proofs.Java.JavadocLookup
import JavadocTags.Proofs.Java.PlainText
import JavadocTags.Proofs.Java.Words
import JavadocTags.Proofs.Text.LineEnds

/-!
# A class below a Javadoc block

The text of a Javadoc block with any lines inside and an empty class below it, and the source that
is read from it: the lines as they are written, one block with the lines of the comment, and one
declaration on the line below. Quotes, slashes and braces in the comment make no difference.
-/
namespace JavadocTags.Java

open Text (Position)

/-- A line that can stand inside a Javadoc block. -/
structure BodyLine (line : List Char) : Prop where
  no_lineFeed : '\n' ∉ line
  no_return : '\r' ∉ line
  no_end : ¬ ['*', '/'] <:+: line

def blockLines (body : List (List Char)) : List (List Char) :=
  "/**".toList :: (body ++ ["*/".toList])

def classText (name : List Char) : List Char :=
  "class ".toList ++ (name ++ " \x7b\x7d".toList)

def documentedClass (body : List (List Char)) (name : List Char) : List Char :=
  (blockLines body).flatMap (· ++ ['\n']) ++ classText name

section Layout
variable {body : List (List Char)} {name : List Char}

theorem AsciiName.not_mem {c : Char} (hname : AsciiName name) (hc : isNameChar c = false) :
    c ∉ name := by
  intro hmem
  rw [hname.chars c hmem] at hc
  cases hc

theorem not_mem_classText {c : Char} (hname : AsciiName name) (hc : isNameChar c = false)
    (hother : c ∉ "class \x7b\x7d".toList) : c ∉ classText name := by
  have hmem := hname.not_mem hc
  unfold classText
  simp only [List.mem_append, not_or]
  simp at hother
  simp [hother, hmem]

theorem forall_blockLines {p : List Char → Prop} (hbody : ∀ line ∈ body, p line)
    (hfirst : p "/**".toList) (hlast : p "*/".toList) : ∀ line ∈ blockLines body, p line := by
  intro line hline
  rcases List.mem_cons.1 hline with rfl | hline
  · exact hfirst
  · rcases List.mem_append.1 hline with hline | hline
    · exact hbody line hline
    · rw [List.mem_singleton.1 hline]
      exact hlast

theorem unifyLineEnds_documentedClass (hbody : ∀ line ∈ body, BodyLine line)
    (hname : AsciiName name) :
    Text.unifyLineEnds (documentedClass body name) = documentedClass body name := by
  have hlines :=
    forall_blockLines (fun line hline => (hbody line hline).no_return) (by simp) (by simp)
  refine Text.unifyLineEnds_of_not_mem ?_
  simp only [documentedClass, List.mem_append, List.mem_flatMap, List.mem_singleton, not_or]
  refine ⟨?_, not_mem_classText hname rfl (by simp)⟩
  rintro ⟨line, hline, hmem | hmem⟩
  · exact hlines line hline hmem
  · cases hmem

theorem lines_documentedClass (hbody : ∀ line ∈ body, BodyLine line) (hname : AsciiName name) :
    Text.lines (documentedClass body name) = blockLines body ++ [classText name] := by
  have hlines := forall_blockLines (fun line hline => (hbody line hline).no_lineFeed) (by simp)
    (by simp)
  rw [documentedClass, Text.lines_flatMap hlines,
    Text.lines_of_not_mem (not_mem_classText hname rfl (by simp))]

end Layout

section Segments
variable {body : List (List Char)} {name : List Char}

theorem splitBlockEnd_cons {c : Char} {rest : List Char} (h : ¬ ['*', '/'] <+: c :: rest) :
    splitBlockEnd (c :: rest) = (c :: (splitBlockEnd rest).1, (splitBlockEnd rest).2) := by
  rw [splitBlockEnd]
  rintro tail rfl rfl
  exact h (List.prefix_append _ _)

theorem splitBlockEnd_line {line : List Char} (h : ¬ ['*', '/'] <:+: line) (rest : List Char) :
    splitBlockEnd (line ++ '\n' :: rest) =
      (line ++ '\n' :: (splitBlockEnd rest).1, (splitBlockEnd rest).2) := by
  induction line with
  | nil => exact splitBlockEnd_cons (by simp)
  | cons c line ih =>
      rw [List.infix_cons_iff, not_or] at h
      have hhere : ¬ ['*', '/'] <+: c :: (line ++ '\n' :: rest) := by
        cases line with
        | nil => simp
        | cons d line => simpa using h.1
      rw [List.cons_append, splitBlockEnd_cons hhere, ih h.2]
      rfl

theorem splitBlockEnd_lines {front : List (List Char)}
    (h : ∀ line ∈ front, ¬ ['*', '/'] <:+: line) (rest : List Char) :
    splitBlockEnd (front.flatMap (· ++ ['\n']) ++ rest) =
      (front.flatMap (· ++ ['\n']) ++ (splitBlockEnd rest).1, (splitBlockEnd rest).2) := by
  induction front with
  | nil => rfl
  | cons line front ih =>
      rw [List.forall_mem_cons] at h
      rw [List.flatMap_cons, List.append_assoc, List.append_assoc, List.singleton_append,
        splitBlockEnd_line h.1, ih h.2, List.append_assoc, List.append_assoc,
        List.singleton_append]

@[simp] theorem splitSegment_block (text : List Char) :
    splitSegment '/' ('*' :: text) =
      (⟨.blockComment (splitBlockEnd text).2.2, '/' :: '*' :: (splitBlockEnd text).1⟩,
        (splitBlockEnd text).2.1) :=
  rfl

def blockText (body : List (List Char)) : List Char :=
  ("/**".toList :: body).flatMap (· ++ ['\n']) ++ "*/".toList

theorem documentedClass_eq (body : List (List Char)) (name : List Char) :
    documentedClass body name = blockText body ++ '\n' :: classText name := by
  unfold documentedClass blockLines blockText
  simp [List.flatMap_append]

theorem segments_documentedClass (hbody : ∀ line ∈ body, BodyLine line) (hname : AsciiName name) :
    segments (documentedClass body name) =
      ⟨.blockComment true, blockText body⟩ :: ('\n' :: classText name).map (⟨.code, [·]⟩) := by
  have hcode : segments ('\n' :: classText name) = ('\n' :: classText name).map (⟨.code, [·]⟩) := by
    have hno {d : Char} (hd : isNameChar d = false) (hother : d ∉ "\nclass \x7b\x7d".toList) :
        d ∉ '\n' :: classText name := by
      simp only [String.reduceToList, List.mem_cons, not_or] at hother
      rw [List.mem_cons, not_or]
      refine ⟨hother.1, not_mem_classText hname hd ?_⟩
      simpa using hother.2
    refine (plain_of_forall fun c hc => ⟨?_, ?_, ?_⟩).segments_eq
    · exact fun heq => hno rfl (by simp) (heq ▸ hc)
    · exact fun heq => hno rfl (by simp) (heq ▸ hc)
    · exact fun heq => hno rfl (by simp) (heq ▸ hc)
  have hstars : ∀ line ∈ ['*'] :: body, ¬ ['*', '/'] <:+: line := by
    rw [List.forall_mem_cons]
    exact ⟨by decide, fun line hline => (hbody line hline).no_end⟩
  have hend := splitBlockEnd_lines hstars ('*' :: '/' :: '\n' :: classText name)
  have htext : documentedClass body name = '/' :: '*' ::
      ((['*'] :: body).flatMap (· ++ ['\n']) ++ '*' :: '/' :: '\n' :: classText name) := by
    rw [documentedClass_eq]
    unfold blockText
    simp
  have hsegment : splitSegment '/' ('*' ::
      ((['*'] :: body).flatMap (· ++ ['\n']) ++ '*' :: '/' :: '\n' :: classText name)) =
        (⟨.blockComment true, blockText body⟩, '\n' :: classText name) := by
    rw [splitSegment_block, hend]
    unfold blockText
    simp [splitBlockEnd]
  rw [htext, segments, hsegment, hcode]

theorem mask_documentedClass (hbody : ∀ line ∈ body, BodyLine line) (hname : AsciiName name) :
    mask (documentedClass body name) = blankOut (blockText body) ++ '\n' :: classText name := by
  rw [mask, segments_documentedClass hbody hname, List.flatMap_cons, flatMap_masked_code]
  rfl

theorem javadocSpans_documentedClass (hbody : ∀ line ∈ body, BodyLine line)
    (hname : AsciiName name) :
    javadocSpans (documentedClass body name) = [⟨0, (blockText body).length⟩] := by
  have hjavadoc : (Segment.mk (.blockComment true) (blockText body)).isJavadoc = true := by
    rw [isJavadoc_iff]
    unfold blockText
    simp
  rw [javadocSpans, segments_documentedClass hbody hname, javadocSpansFrom]
  simp only [hjavadoc, if_true, javadocSpansFrom_code, Nat.zero_add]

end Segments

section Source
variable {body : List (List Char)} {name : List Char}

@[simp] theorem length_blockLines (body : List (List Char)) :
    (blockLines body).length = body.length + 2 := by
  simp [blockLines]

theorem after_lines {front : List (List Char)} (h : ∀ line ∈ front, '\n' ∉ line) (n : Nat) :
    Position.after ⟨n, 0⟩ (front.flatMap (· ++ ['\n'])) = ⟨n + front.length, 0⟩ := by
  induction front generalizing n with
  | nil => rfl
  | cons line front ih =>
      rw [List.forall_mem_cons] at h
      rw [List.flatMap_cons, Position.after_append, Position.after_append,
        Position.after_of_not_mem _ h.1, Position.after_cons, Position.after_nil,
        Position.advance_lineFeed, ih h.2, List.length_cons, Nat.add_assoc, Nat.add_comm 1]

theorem positionIn_blockText (hbody : ∀ line ∈ body, BodyLine line) (rest : List Char) :
    positionIn (blockText body ++ rest) ((blockText body).length - 1) = ⟨body.length + 2, 1⟩ := by
  have hlines : ∀ line ∈ "/**".toList :: body, '\n' ∉ line := by
    rw [List.forall_mem_cons]
    exact ⟨by simp, fun line hline => (hbody line hline).no_lineFeed⟩
  have hsplit : blockText body ++ rest =
      (("/**".toList :: body).flatMap (· ++ ['\n']) ++ ['*']) ++ '/' :: rest := by
    unfold blockText
    simp
  have hlength : (blockText body).length - 1 =
      (("/**".toList :: body).flatMap (· ++ ['\n']) ++ ['*']).length := by
    unfold blockText
    rw [List.length_append, List.length_append]
    rfl
  rw [hsplit, hlength, positionIn_append, Position.after_append, Position.origin,
    after_lines hlines, Nat.add_comm 1]
  rfl

/-- The block holds the lines of the comment as they are written. -/
theorem docComments_documentedClass (hbody : ∀ line ∈ body, BodyLine line)
    (hname : AsciiName name) :
    docComments (documentedClass body name) = [⟨blockLines body, 1⟩] := by
  have hfirst : positionIn (documentedClass body name) 0 = ⟨1, 0⟩ :=
    positionIn_append [] (documentedClass body name)
  have hlast := positionIn_blockText hbody ('\n' :: classText name)
  rw [← documentedClass_eq] at hlast
  have hblock : (blockLines body ++ [classText name]).take (body.length + 2) = blockLines body := by
    rw [← length_blockLines, List.take_left]
  rw [docComments, javadocSpans_documentedClass hbody hname, lines_documentedClass hbody hname]
  show [commentBetween _ (positionIn _ 0) (positionIn _ ((blockText body).length - 1))] = _
  rw [hfirst, hlast, commentBetween]
  simp only [hblock]
  simp [blockLines]

theorem tokensFrom_blank {blank : List Char} (h : ∀ c ∈ blank, Text.isBlank c = true) (n : Nat)
    (rest : List Char) :
    tokensFrom n (Text.lines (blank ++ '\n' :: rest)) =
      tokensFrom (n + blank.count '\n' + 1) (Text.lines rest) := by
  induction blank using Text.lines_induction generalizing n with
  | last line hline =>
      rw [Text.lines_append hline, tokensFrom, tokensOfLine_blank h, List.nil_append,
        List.count_eq_zero.2 hline]
  | line line tail hline ih =>
      simp only [List.mem_append, List.mem_cons] at h
      rw [List.append_assoc, List.cons_append, Text.lines_append hline, tokensFrom,
        tokensOfLine_blank fun c hc => h c (.inl hc), List.nil_append,
        ih fun c hc => h c (.inr (.inr hc)), List.count_append, List.count_eq_zero.2 hline,
        List.count_cons_self]
      congr 1
      omega

theorem count_blankOut (text : List Char) : (blankOut text).count '\n' = text.count '\n' := by
  induction text with
  | nil => rfl
  | cons c text ih =>
      rw [blankOut] at ih ⊢
      by_cases hc : c = '\n'
      · simp [hc, ih]
      · simp [hc, ih]

theorem count_blockText (hbody : ∀ line ∈ body, BodyLine line) :
    (blockText body).count '\n' = body.length + 1 := by
  have hlines : ∀ line ∈ "/**".toList :: body, '\n' ∉ line := by
    rw [List.forall_mem_cons]
    exact ⟨by simp, fun line hline => (hbody line hline).no_lineFeed⟩
  have hafter := Position.after_line ⟨0, 0⟩ (("/**".toList :: body).flatMap (· ++ ['\n']))
  rw [after_lines hlines] at hafter
  simp only [List.length_cons, Nat.zero_add] at hafter
  unfold blockText
  rw [List.count_append, ← hafter]
  rfl

theorem tokens_classText (hname : AsciiName name) (n : Nat) :
    ∃ opening closing : Token, opening.text = "\x7b" ∧ closing.text = "\x7d" ∧
      tokensOfLine n 0 (classText name) =
        [⟨"class", n, 0⟩, ⟨String.ofList name, n, 6⟩, opening, closing] := by
  obtain ⟨c, rest, rfl, hstart, hrest⟩ := hname.exists_cons
  have hclass : tokensOfLine n 0
      ('c' :: ("lass".toList ++ ' ' :: c :: (rest ++ " \x7b\x7d".toList))) =
      ⟨"class", n, 0⟩ :: tokensOfLine n 5 (' ' :: c :: (rest ++ " \x7b\x7d".toList)) :=
    tokensOfLine_word rfl (List.all_eq_true.1 rfl) rfl
  have hname : tokensOfLine n 6 (c :: (rest ++ ' ' :: "\x7b\x7d".toList)) =
      ⟨String.ofList (c :: rest), n, 6⟩ ::
        tokensOfLine n (6 + 1 + rest.length) (' ' :: "\x7b\x7d".toList) :=
    tokensOfLine_word hstart hrest rfl
  refine ⟨⟨"\x7b", n, 6 + 1 + rest.length + 1⟩, ⟨"\x7d", n, 6 + 1 + rest.length + 1 + 1⟩,
    rfl, rfl, ?_⟩
  have htext : classText (c :: rest) =
      'c' :: ("lass".toList ++ ' ' :: c :: (rest ++ " \x7b\x7d".toList)) := by
    unfold classText
    simp
  have hbraces (column : Nat) : tokensOfLine n column (' ' :: "\x7b\x7d".toList) =
      [⟨"\x7b", n, column + 1⟩, ⟨"\x7d", n, column + 1 + 1⟩] := by
    cbv
  have hspace : tokensOfLine n 5 (' ' :: c :: (rest ++ " \x7b\x7d".toList)) =
      tokensOfLine n 6 (c :: (rest ++ ' ' :: "\x7b\x7d".toList)) := by
    rw [tokensOfLine, if_pos (show Text.isBlank ' ' = true from rfl)]
    rfl
  rw [htext, hclass, hspace, hname, hbraces]

theorem scan_class {start name opening closing : Token} (hstart : start.text = "class")
    (hname : isIdentifier name.text = true) (hopening : opening.text = "\x7b")
    (hclosing : closing.text = "\x7d") :
    scan [start, name, opening, closing] = [declarationAt start .classType name.text] := by
  have htype : typeDeclaration (some .classType) start [name, opening, closing] =
      ⟨[declarationAt start .classType name.text], [closing],
        some ⟨some .classType, name.text⟩⟩ := by
    simp [typeDeclaration, hopening, nextText]
  have hmember : member none start [name, opening, closing] =
      typeDeclaration (some .classType) start [name, opening, closing] := by
    simp [member, memberFrom, hstart, nextText, hname, typeKeyword?]
  rw [scan, scanFrom]
  simp [hstart, isPreamble, hmember, htype, scanFrom, hclosing]

theorem declarations_documentedClass (hbody : ∀ line ∈ body, BodyLine line)
    (hname : AsciiName name) :
    declarations (documentedClass body name) =
      [⟨.classType, String.ofList name, body.length + 3, 0⟩] := by
  have hblank : ∀ c ∈ blankOut (blockText body), Text.isBlank c = true := by
    intro c hc
    obtain ⟨d, _, rfl⟩ := List.mem_map.1 hc
    split
    · rfl
    · rfl
  obtain ⟨opening, closing, hopening, hclosing, htokens⟩ :=
    tokens_classText hname (body.length + 3)
  have hscan := @scan_class ⟨"class", body.length + 3, 0⟩
    ⟨String.ofList name, body.length + 3, 6⟩ opening closing rfl hname.isIdentifier hopening
    hclosing
  have htext := Text.lines_of_not_mem (@not_mem_classText name '\n' hname rfl (by simp))
  have hline : 1 + (body.length + 1) + 1 = body.length + 3 := by omega
  rw [declarations, mask_documentedClass hbody hname, tokens, tokensFrom_blank hblank,
    count_blankOut, count_blockText hbody, hline, htext, tokensFrom, tokensFrom, List.append_nil,
    htokens, hscan]
  rfl

theorem ofText_documentedClass (path : String) (hbody : ∀ line ∈ body, BodyLine line)
    (hname : AsciiName name) :
    Source.ofText path (documentedClass body name) =
      { path
        lines := (blockLines body ++ [classText name]).toArray
        javadocs := [⟨blockLines body, 1⟩]
        declarations := [⟨.classType, String.ofList name, body.length + 3, 0⟩] } := by
  rw [Source.ofText]
  simp only [unifyLineEnds_documentedClass hbody hname, lines_documentedClass hbody hname,
    docComments_documentedClass hbody hname, declarations_documentedClass hbody hname]
  rfl

theorem javadocBefore?_documentedClass (path : String) (hbody : ∀ line ∈ body, BodyLine line)
    (hname : AsciiName name) :
    (Source.ofText path (documentedClass body name)).javadocBefore? (body.length + 3) =
      some ⟨blockLines body, 1⟩ := by
  rw [ofText_documentedClass path hbody hname]
  generalize hsource : Source.mk path (blockLines body ++ [classText name]).toArray
    [⟨blockLines body, 1⟩] _ = source
  have hget : (blockLines body ++ [classText name])[body.length + 1]? = some "*/".toList := by
    have hsplit : blockLines body ++ [classText name] =
        ("/**".toList :: body) ++ ["*/".toList, classText name] := by
      simp [blockLines]
    have hlength : ("/**".toList :: body).length = body.length + 1 := rfl
    rw [hsplit, ← hlength, List.getElem?_append_right (Nat.le_refl _), Nat.sub_self]
    rfl
  have hline : source.line (body.length + 2) = "*/".toList := by
    rw [← hsource, Source.line, if_neg (by omega)]
    simpa using hget
  have hskip : source.isSkippable (body.length + 2) = false := by
    rw [Source.isSkippable, hline]
    rfl
  have habove : source.lineAbove (body.length + 2) = body.length + 2 := by
    rw [Source.lineAbove, hskip]
    rfl
  have hnumber : (body.length + 3 - 1 : Int).toNat = body.length + 2 := by omega
  have hend : DocComment.endLine ⟨blockLines body, 1⟩ = ((body.length + 2 : Nat) : Int) := by
    rw [DocComment.endLine, length_blockLines]
    show (1 + ((body.length + 2 : Nat) : Int) - 1 : Int) = _
    omega
  rw [Source.javadocBefore?, hnumber, habove, ← hsource]
  exact List.find?_cons_of_pos (beq_iff_eq.2 hend)

end Source

end JavadocTags.Java
