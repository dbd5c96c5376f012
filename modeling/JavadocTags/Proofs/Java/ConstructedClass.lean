import Mathlib
import JavadocTags.Proofs.Java.CommentIndependence
import JavadocTags.Proofs.Java.DeclarationPlaces
import JavadocTags.Proofs.Java.DocumentedClass
import JavadocTags.Proofs.Java.SkeletonScan
import JavadocTags.Proofs.Unicode.Separation

/-!
# A class with a constructor

The text of a class that holds nothing but a constructor, with one name written twice. The name
begins with any letter, an underscore or a dollar sign. It is read whole exactly if it is a single
character or begins as words do, with a letter of ASCII or one of the two signs: another letter is a
token by itself, and the rest of the name begins a new one.
-/
namespace JavadocTags.Java

/-- A name begins as identifiers do, and its further characters continue a word. -/
structure NameText (name : List Char) : Prop where
  identifier : isIdentifier (String.ofList name) = true
  continues : ∀ c ∈ name.tail, continuesWord c = true

def constructedClass (name : List Char) : List Char :=
  "class ".toList ++ (name ++ (" \x7b ".toList ++ (name ++ "() \x7b\x7d \x7d".toList)))

/-- The class and its constructor are all that is declared, both by the whole name. -/
def ReadWhole (name : List Char) : Prop :=
  ∀ path, (Source.ofText path (constructedClass name)).declarations.map Declaration.signature =
    [(.classType, String.ofList name), (.constructor, String.ofList name)]

/-- A name is one token if it begins as a word or is a single character. -/
def OneToken (name : List Char) : Prop :=
  (∀ c ∈ name.head?, startsWord c = true) ∨ name.length = 1

section Name
variable {name : List Char}

theorem NameText.exists_cons (h : NameText name) :
    ∃ c rest, name = c :: rest ∧ (Unicode.isLetter c = true ∨ c = '_' ∨ c = '$') ∧
      ∀ d ∈ rest, continuesWord d = true := by
  obtain ⟨hidentifier, hcontinues⟩ := h
  cases name with
  | nil => cases hidentifier
  | cons c rest =>
      refine ⟨c, rest, rfl, ?_, hcontinues⟩
      simp only [isIdentifier, String.toList_ofList, Bool.or_eq_true, beq_iff_eq] at hidentifier
      rcases hidentifier with (h | h) | h
      · exact .inl h
      · exact .inr (.inl h)
      · exact .inr (.inr h)

theorem nameText_of_letter {c : Char} {rest : List Char} (hletter : Unicode.isLetter c = true)
    (hrest : ∀ d ∈ rest, continuesWord d = true) : NameText (c :: rest) := by
  refine ⟨?_, hrest⟩
  simp [isIdentifier, hletter]

theorem NameText.continuesWord_of_mem (h : NameText name) {c : Char} (hc : c ∈ name) :
    continuesWord c = true := by
  obtain ⟨first, rest, rfl, hfirst, hrest⟩ := h.exists_cons
  rcases List.mem_cons.1 hc with rfl | hc
  · rcases hfirst with hletter | rfl | rfl
    · simp [continuesWord, Unicode.isWord, Unicode.isAlphanumeric, hletter]
    · rfl
    · rfl
  · exact hrest c hc

theorem NameText.not_mem_constructedClass (h : NameText name) {c : Char}
    (hc : continuesWord c = false) (hother : c ∉ "class \x7b()\x7d".toList) :
    c ∉ constructedClass name := by
  have hname : c ∉ name := by
    intro hmem
    rw [h.continuesWord_of_mem hmem] at hc
    cases hc
  simp only [String.reduceToList, List.mem_cons, List.not_mem_nil, or_false, not_or] at hother
  unfold constructedClass
  simp [hname, hother]

end Name

section Texts
variable {name : List Char}

/-- A letter that does not begin a word is a token by itself. -/
theorem splitLexeme_letter {c : Char} (hletter : Unicode.isLetter c = true)
    (hstart : startsWord c = false) (rest : List Char) : splitLexeme c rest = ([], rest) := by
  have hne (other : Char) (hother : Unicode.isLetter other = false) : c ≠ other := by
    rintro rfl
    rw [hletter] at hother
    cases hother
  have hdecimal := Unicode.isDecimal_eq_false_of_isLetter hletter
  unfold splitLexeme
  rw [if_neg (by simp [hstart]), if_neg (by simp [hdecimal])]
  split
  · exact absurd rfl (hne '.' (by decide))
  · exact absurd rfl (hne ':' (by decide))
  · exact absurd rfl (hne '-' (by decide))
  · rfl

theorem tokenTexts_letter {c : Char} (hletter : Unicode.isLetter c = true)
    (hstart : startsWord c = false) (rest : List Char) :
    tokenTexts (c :: rest) = String.ofList [c] :: tokenTexts rest := by
  have hword : Unicode.isWord c = true := by
    simp [Unicode.isWord, Unicode.isAlphanumeric, hletter]
  have hblank : ¬ Text.isBlank c = true := by
    simp [Unicode.isBlank_eq_false_of_isWord hword]
  rw [tokenTexts, tokensOfLine, if_neg hblank, splitLexeme_letter hletter hstart, List.map_cons,
    map_text_tokensOfLine]

theorem tokenTexts_name (h : NameText name) (hone : OneToken name) {next : Char}
    (hnext : continuesWord next = false) (rest : List Char) :
    tokenTexts (name ++ next :: rest) = String.ofList name :: tokenTexts (next :: rest) := by
  obtain ⟨c, word, rfl, hfirst, hword⟩ := h.exists_cons
  by_cases hstart : startsWord c = true
  · rw [List.cons_append, tokenTexts, tokensOfLine_word hstart hword hnext, List.map_cons,
      map_text_tokensOfLine]
  · have hnil : word = [] := by
      rcases hone with hwords | hlength
      · exact absurd (hwords c rfl) hstart
      · exact List.length_eq_zero_iff.1 (Nat.succ.inj hlength)
    have hletter : Unicode.isLetter c = true := by
      rcases hfirst with hletter | rfl | rfl
      · exact hletter
      · exact absurd rfl hstart
      · exact absurd rfl hstart
    rw [hnil, List.singleton_append, tokenTexts_letter hletter (by simpa using hstart)]

theorem tokenTexts_constructedClass (name : List Char) :
    tokenTexts (constructedClass name) =
      "class" ::
        tokenTexts (name ++ ' ' :: '\x7b' :: ' ' :: (name ++ "() \x7b\x7d \x7d".toList)) := by
  have hclass : tokenTexts "class".toList = ["class"] := by cbv
  have htext : constructedClass name = "class".toList ++
      ' ' :: (name ++ ' ' :: '\x7b' :: ' ' :: (name ++ "() \x7b\x7d \x7d".toList)) := by
    unfold constructedClass
    simp
  rw [htext, tokenTexts_append_gap (.inl rfl), hclass, List.singleton_append]

theorem tokenTexts_of_oneToken (h : NameText name) (hone : OneToken name) :
    tokenTexts (constructedClass name) =
      ["class", String.ofList name, "\x7b", String.ofList name, "(", ")", "\x7b", "\x7d",
        "\x7d"] := by
  have hbrace : tokenTexts ['\x7b'] = ["\x7b"] := by cbv
  have hend : tokenTexts "() \x7b\x7d \x7d".toList = ["(", ")", "\x7b", "\x7d", "\x7d"] := by cbv
  have hparen : "() \x7b\x7d \x7d".toList = '(' :: ") \x7b\x7d \x7d".toList := by simp
  have hbody : tokenTexts (' ' :: '\x7b' :: ' ' :: (name ++ "() \x7b\x7d \x7d".toList)) =
      ["\x7b"] ++ tokenTexts (name ++ "() \x7b\x7d \x7d".toList) := by
    rw [tokenTexts_cons_gap (.inl rfl), ← hbrace, ← tokenTexts_append_gap (.inl rfl),
      List.singleton_append]
  rw [tokenTexts_constructedClass, tokenTexts_name h hone (by decide), hbody, hparen,
    tokenTexts_name h hone (by decide), ← hparen, hend]
  rfl

end Texts

section Scan
variable {name : List Char}

def placeless (texts : List String) : List Token :=
  texts.map (⟨·, 0, 0⟩)

/-- What is declared in the text depends on the texts of its tokens alone. -/
theorem signatures_constructedClass (h : NameText name) (path : String) :
    (Source.ofText path (constructedClass name)).declarations.map Declaration.signature =
      (scan (placeless (tokenTexts (constructedClass name)))).map Declaration.signature := by
  have hplain : Plain (constructedClass name) := by
    apply plain_of_forall
    intro c hc
    refine ⟨?_, ?_, ?_⟩
    · rintro rfl
      exact h.not_mem_constructedClass rfl (by simp) hc
    · rintro rfl
      exact h.not_mem_constructedClass rfl (by simp) hc
    · rintro rfl
      exact h.not_mem_constructedClass rfl (by simp) hc
  have hreturn : '\r' ∉ constructedClass name := h.not_mem_constructedClass rfl (by simp)
  rw [Source.ofText]
  simp only [Text.unifyLineEnds_of_not_mem hreturn, declarations, hplain.mask_eq]
  apply scan_signature_of_texts
  rw [tokens, map_text_tokensFrom, placeless, List.map_map]
  exact (List.map_id _).symm

theorem scan_constructor {name : String} (hname : isIdentifier name = true) :
    scan (placeless ["class", name, "\x7b", name, "(", ")", "\x7b", "\x7d", "\x7d"]) =
      [⟨.classType, name, 0, 0⟩, ⟨.constructor, name, 0, 0⟩] := by
  apply scan_skeleton
  have hkind : (some .classType : Option DeclarationKind) ≠ some .annotationType := by decide
  have hmember := @Skeleton.callable ⟨some .classType, name⟩ ⟨name, 0, 0⟩ _ _ _ _ _ _ hkind
    .nil hname (bracketed_empty ⟨"(", 0, 0⟩ ⟨")", 0, 0⟩ rfl rfl) .nil
    (.inr (bracketed_empty ⟨"\x7b", 0, 0⟩ ⟨"\x7d", 0, 0⟩ rfl rfl)) .nil
  have hclass := @Skeleton.type none _ ⟨"class", 0, 0⟩ ⟨name, 0, 0⟩ ⟨"\x7b", 0, 0⟩
    ⟨"\x7d", 0, 0⟩ _ _ _ _ _ _ _ _ _ .nil (.classType rfl) hname .nil rfl (.other (by decide))
    hmember rfl .nil
  rw [if_pos rfl] at hclass
  exact hclass

/-- The first declaration is the class, by the token behind the keyword. -/
theorem exists_scan_class {start name : Token} (hstart : start.text = "class")
    (hname : isIdentifier name.text = true) (rest : List Token) :
    ∃ more, scan (start :: name :: rest) =
      declarationAt start .classType name.text :: more := by
  have hmember : member none start (name :: rest) =
      typeDeclaration (some .classType) start (name :: rest) := by
    rw [member_eq_memberFrom (by simp [hstart]) (by simp [hstart])]
    exact memberFrom_keyword (.classType hstart) hname rest ""
  obtain ⟨constants, hfound, _⟩ :=
    typeDeclaration_reads (some .classType) start (name :: rest)
  rw [scan, scanFrom_member (by simp [hstart]) (by simp [hstart])
    (fun _ => by rw [hstart]; decide), Step.resume, List.head?_nil, hmember, hfound]
  exact ⟨_, rfl⟩

end Scan

theorem readWhole_of_oneToken {name : List Char} (h : NameText name) (hone : OneToken name) :
    ReadWhole name := by
  intro path
  rw [signatures_constructedClass h, tokenTexts_of_oneToken h hone, scan_constructor h.identifier]
  rfl

/-- The class takes its name from the first letter alone. -/
theorem not_readWhole_of_letter {c : Char} {rest : List Char} (h : NameText (c :: rest))
    (hletter : Unicode.isLetter c = true) (hstart : startsWord c = false) (hrest : rest ≠ []) :
    ¬ ReadWhole (c :: rest) := by
  intro hread
  have hidentifier : isIdentifier (String.ofList [c]) = true := by
    simp [isIdentifier, hletter]
  have hsignature := hread ""
  rw [signatures_constructedClass h, tokenTexts_constructedClass, List.cons_append,
    tokenTexts_letter hletter hstart, placeless, List.map_cons, List.map_cons] at hsignature
  obtain ⟨more, hmore⟩ :=
    @exists_scan_class ⟨"class", 0, 0⟩ ⟨String.ofList [c], 0, 0⟩ rfl hidentifier _
  rw [hmore, List.map_cons] at hsignature
  have hhead := (List.cons.inj hsignature).1
  have hname : [c] = c :: rest := String.ofList_injective (Prod.mk.inj hhead).2
  exact hrest (List.cons.inj hname).2.symm

/-- A class and its constructor are read by their whole name exactly if it is one token. -/
theorem readWhole_iff {name : List Char} (h : NameText name) :
    ReadWhole name ↔ OneToken name := by
  constructor
  · intro hread
    by_contra hone
    obtain ⟨c, rest, rfl, hfirst, _⟩ := h.exists_cons
    rw [OneToken, not_or] at hone
    have hstart : startsWord c = false := by simpa using hone.1
    have hrest : rest ≠ [] := by simpa using hone.2
    rcases hfirst with hletter | rfl | rfl
    · exact not_readWhole_of_letter h hletter hstart hrest hread
    · cases hstart
    · cases hstart
  · exact readWhole_of_oneToken h

/-- A letter of another script inside a name is read as a part of it. -/
theorem readWhole_iff_accentedLetter :
    NameText ['n', 'a', 'ï', 'v', 'e'] ∧ OneToken ['n', 'a', 'ï', 'v', 'e'] ∧
      ReadWhole ['n', 'a', 'ï', 'v', 'e'] := by
  have hname : NameText ['n', 'a', 'ï', 'v', 'e'] := by
    refine nameText_of_letter (by decide +kernel) ?_
    simp only [List.forall_mem_cons]
    exact ⟨by decide +kernel, by decide +kernel, by decide +kernel, by decide +kernel, by simp⟩
  have hone : OneToken ['n', 'a', 'ï', 'v', 'e'] := by
    refine .inl fun c hc => ?_
    obtain rfl := Option.some.inj hc
    decide
  exact ⟨hname, hone, (readWhole_iff hname).2 hone⟩

theorem not_readWhole : ¬ ∀ name, NameText name → ReadWhole name := by
  intro hall
  have hname : NameText ['é', 'a'] :=
    nameText_of_letter (by decide +kernel) (List.forall_mem_singleton.2 (by decide))
  exact not_readWhole_of_letter hname (by decide +kernel) (by decide) (by decide) (hall _ hname)

end JavadocTags.Java
