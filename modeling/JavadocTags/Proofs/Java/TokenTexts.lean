import JavadocTags.Java.Scanner

/-!
# The scanner reads the texts of tokens

Where a token stands decides where a declaration is reported, and nothing else. If tokens are
replaced by others with the same texts, every skip leaves the tokens that replace those it left
before, and the declarations have the same kinds and names in the same order.
-/
namespace JavadocTags

def Declaration.signature (d : Declaration) : DeclarationKind × String :=
  (d.kind, d.name)

end JavadocTags

namespace JavadocTags.Java

def skipConstantTail (ts : List Token) : List Token :=
  if nextText (skipArguments ts) = "\x7b" then skipBraces (skipArguments ts) else skipArguments ts

theorem skipConstantTail_length_le (ts : List Token) :
    (skipConstantTail ts).length ≤ ts.length := by
  unfold skipConstantTail
  split
  · exact Nat.le_trans (skipBrackets_length_le ..) (skipArguments_length_le ts)
  · exact skipArguments_length_le ts

/-- What follows the annotations of a constant decides how the constants are read on. -/
theorem enumConstants_cons {t : Token} (hsemicolon : t.text ≠ ";") (hclose : t.text ≠ "\x7d")
    (hcomma : t.text ≠ ",") (rest : List Token) :
    enumConstants (t :: rest) =
      match skipAnnotations (t :: rest) with
      | [] => ([], [])
      | name :: after =>
          if isIdentifier name.text then
            (declarationAt t .enumConstant name.text :: (enumConstants (skipConstantTail after)).1,
              (enumConstants (skipConstantTail after)).2)
          else enumConstants after := by
  rw [enumConstants, if_neg hsemicolon, if_neg hclose, if_neg hcomma]
  split
  · rename_i hskip
    rw [hskip]
  · rename_i name after hskip
    rw [hskip]
    rfl

section Replaced
variable {g : Token → Token} (hg : ∀ t, (g t).text = t.text)
include hg

theorem nextText_map (ts : List Token) : nextText (ts.map g) = nextText ts := by
  cases ts with
  | nil => rfl
  | cons t rest => exact hg t

theorem skipBrackets_map (opening closing : String) (depth : Nat) (ts : List Token) :
    skipBrackets opening closing depth (ts.map g) =
      (skipBrackets opening closing depth ts).map g := by
  induction ts generalizing depth with
  | nil => rfl
  | cons t rest ih =>
      rw [List.map_cons, skipBrackets, skipBrackets, hg]
      split
      · exact ih (depth + 1)
      · split
        · split
          · rfl
          · exact ih (depth - 1)
        · exact ih depth

theorem skipBraces_map (ts : List Token) : skipBraces (ts.map g) = (skipBraces ts).map g :=
  skipBrackets_map hg _ _ 0 ts

theorem skipParentheses_map (ts : List Token) :
    skipParentheses (ts.map g) = (skipParentheses ts).map g :=
  skipBrackets_map hg _ _ 0 ts

theorem skipStatement_map (ts : List Token) :
    skipStatement (ts.map g) = (skipStatement ts).map g := by
  fun_induction skipStatement ts with
  | case1 => rw [List.map_nil, skipStatement]
  | case2 t rest hsemicolon =>
      rw [List.map_cons, skipStatement, hg, if_pos hsemicolon]
  | case3 t rest hsemicolon hbrace ih =>
      rw [← ih, ← skipBraces_map hg, List.map_cons, skipStatement, hg, if_neg hsemicolon,
        if_pos hbrace]
  | case4 t rest hsemicolon hbrace hparen ih =>
      rw [← ih, ← skipParentheses_map hg, List.map_cons, skipStatement, hg, if_neg hsemicolon,
        if_neg hbrace, if_pos hparen]
  | case5 t rest hsemicolon hbrace hparen hclose =>
      rw [List.map_cons, skipStatement, hg, if_neg hsemicolon, if_neg hbrace, if_neg hparen,
        if_pos hclose]
  | case6 t rest hsemicolon hbrace hparen hclose ih =>
      rw [← ih, List.map_cons, skipStatement, hg, if_neg hsemicolon, if_neg hbrace, if_neg hparen,
        if_neg hclose]

theorem skipQualifiers_map (ts : List Token) :
    skipQualifiers (ts.map g) = (skipQualifiers ts).map g := by
  fun_induction skipQualifiers ts with
  | case1 dot name rest hqualifier ih =>
      rw [← ih, List.map_cons, List.map_cons, skipQualifiers, hg, hg, if_pos hqualifier]
  | case2 dot name rest hqualifier =>
      rw [List.map_cons, List.map_cons, skipQualifiers, hg, hg, if_neg hqualifier]
  | case3 ts hshort =>
      match ts with
      | [] => rfl
      | [t] => rfl
      | dot :: name :: rest => exact absurd rfl (hshort dot name rest)

theorem skipArguments_map (ts : List Token) :
    skipArguments (ts.map g) = (skipArguments ts).map g := by
  unfold skipArguments
  rw [nextText_map hg, skipParentheses_map hg]
  split
  · rfl
  · rfl

theorem skipAnnotationBody_map (ts : List Token) :
    skipAnnotationBody (ts.map g) = (skipAnnotationBody ts).map g := by
  unfold skipAnnotationBody
  rw [nextText_map hg]
  split
  · rw [← List.map_tail, skipQualifiers_map hg, skipArguments_map hg]
  · rw [skipArguments_map hg]

theorem skipAnnotations_map (ts : List Token) :
    skipAnnotations (ts.map g) = (skipAnnotations ts).map g := by
  fun_induction skipAnnotations ts with
  | case1 => rw [List.map_nil, skipAnnotations]
  | case2 t rest hat ih =>
      rw [← ih, ← skipAnnotationBody_map hg, List.map_cons, skipAnnotations, hg, if_pos hat]
  | case3 t rest hat => rw [List.map_cons, skipAnnotations, hg, if_neg hat]

theorem skipHeader_map (ts : List Token) : skipHeader (ts.map g) = (skipHeader ts).map g := by
  fun_induction skipHeader ts with
  | case1 => rw [List.map_nil, skipHeader]
  | case2 t rest hstop => rw [List.map_cons, skipHeader, hg, if_pos hstop]
  | case3 t rest hstop hparen ih =>
      rw [← ih, ← skipParentheses_map hg, List.map_cons, skipHeader, hg, if_neg hstop,
        if_pos hparen]
  | case4 t rest hstop hparen ih =>
      rw [← ih, List.map_cons, skipHeader, hg, if_neg hstop, if_neg hparen]

theorem skipCallableTail_map (isField : Bool) (ts : List Token) :
    skipCallableTail isField (ts.map g) = (skipCallableTail isField ts).map g := by
  fun_induction skipCallableTail isField ts with
  | case1 => rw [List.map_nil, skipCallableTail]
  | case2 t rest hbrace hfield ih =>
      rw [← ih, ← skipBraces_map hg, List.map_cons, skipCallableTail, hg, if_pos hbrace,
        if_pos hfield]
  | case3 t rest hbrace hfield =>
      rw [← skipBraces_map hg, List.map_cons, skipCallableTail, hg, if_pos hbrace, if_neg hfield]
  | case4 t rest hbrace hparen ih =>
      rw [← ih, ← skipParentheses_map hg, List.map_cons, skipCallableTail, hg, if_neg hbrace,
        if_pos hparen]
  | case5 t rest hbrace hparen hsemicolon =>
      rw [List.map_cons, skipCallableTail, hg, if_neg hbrace, if_neg hparen, if_pos hsemicolon]
  | case6 t rest hbrace hparen hsemicolon hclose =>
      rw [List.map_cons, skipCallableTail, hg, if_neg hbrace, if_neg hparen, if_neg hsemicolon,
        if_pos hclose]
  | case7 t rest hbrace hparen hsemicolon hclose ih =>
      rw [← ih, List.map_cons, skipCallableTail, hg, if_neg hbrace, if_neg hparen,
        if_neg hsemicolon, if_neg hclose]

theorem skipConstantTail_map (ts : List Token) :
    skipConstantTail (ts.map g) = (skipConstantTail ts).map g := by
  unfold skipConstantTail
  rw [skipArguments_map hg, nextText_map hg, skipBraces_map hg]
  split
  · rfl
  · rfl

theorem enumConstants_map (ts : List Token) :
    (enumConstants (ts.map g)).1.map Declaration.signature =
        (enumConstants ts).1.map Declaration.signature ∧
      (enumConstants (ts.map g)).2 = (enumConstants ts).2.map g := by
  fun_induction enumConstants ts with
  | case1 => simp [enumConstants]
  | case2 t rest hsemicolon =>
      rw [List.map_cons, enumConstants, hg, if_pos hsemicolon]
      exact ⟨rfl, rfl⟩
  | case3 t rest hsemicolon hclose =>
      rw [List.map_cons, enumConstants, hg, if_neg hsemicolon, if_pos hclose]
      exact ⟨rfl, rfl⟩
  | case4 t rest hsemicolon hclose hcomma ih =>
      rw [List.map_cons, enumConstants, hg, if_neg hsemicolon, if_neg hclose, if_pos hcomma]
      exact ih
  | case5 t rest hsemicolon hclose hcomma hskip =>
      rw [← hg] at hsemicolon hclose hcomma
      rw [List.map_cons, enumConstants_cons hsemicolon hclose hcomma, ← List.map_cons,
        skipAnnotations_map hg, hskip]
      exact ⟨rfl, rfl⟩
  | case6 t rest hsemicolon hclose hcomma name after hskip hname _ next found left hrec ih =>
      rw [← hg] at hsemicolon hclose hcomma
      have hnext : next = skipConstantTail after := rfl
      rw [hnext, ← skipConstantTail_map hg] at ih
      rw [List.map_cons, enumConstants_cons hsemicolon hclose hcomma, ← List.map_cons,
        skipAnnotations_map hg, hskip]
      simp only [List.map_cons, hg, hname, if_true]
      rw [hnext] at hrec
      rw [hrec] at ih
      exact ⟨congrArg _ ih.1, ih.2⟩
  | case7 t rest hsemicolon hclose hcomma name after hskip hname ih =>
      rw [← hg] at hsemicolon hclose hcomma
      rw [List.map_cons, enumConstants_cons hsemicolon hclose hcomma, ← List.map_cons,
        skipAnnotations_map hg, hskip]
      simp only [List.map_cons, hg, if_neg hname]
      exact ih

/-- A step that reads tokens with the same texts. -/
structure Step.Follows (g : Token → Token) (s s' : Step) : Prop where
  found : s'.found.map Declaration.signature = s.found.map Declaration.signature
  rest : s'.rest = s.rest.map g
  opened : s'.opened = s.opened

theorem typeDeclaration_map (kind : Option DeclarationKind) (start start' : Token)
    (ts : List Token) :
    (typeDeclaration kind start ts).Follows g (typeDeclaration kind start' (ts.map g)) := by
  have hfound : (kind.toList.map (declarationAt start' · (nextText ts))).map Declaration.signature =
      (kind.toList.map (declarationAt start · (nextText ts))).map Declaration.signature := by
    rw [List.map_map, List.map_map]
    rfl
  unfold typeDeclaration
  rw [nextText_map hg, ← List.map_tail, skipHeader_map hg]
  cases skipHeader ts.tail with
  | nil => exact ⟨hfound, rfl, rfl⟩
  | cons t rest =>
      have hconstants := enumConstants_map hg rest
      simp only [List.map_cons, hg]
      split
      · split
        · refine ⟨?_, hconstants.2, rfl⟩
          rw [List.map_append, List.map_append, hfound, hconstants.1]
        · exact ⟨hfound, rfl, rfl⟩
      · exact ⟨hfound, rfl, rfl⟩

theorem callableDeclaration_map (enclosing : Option Enclosing) (name : String)
    (start start' : Token) (ts : List Token) :
    (callableDeclaration enclosing name start ts).Follows g
      (callableDeclaration enclosing name start' (ts.map g)) := by
  refine ⟨rfl, ?_, rfl⟩
  simp only [callableDeclaration]
  rw [skipParentheses_map hg, skipCallableTail_map hg]

theorem memberFrom_map (enclosing : Option Enclosing) (start start' : Token) (previous : String)
    (ts : List Token) :
    (memberFrom enclosing start previous ts).Follows g
      (memberFrom enclosing start' previous (ts.map g)) := by
  induction previous, ts using memberFrom.induct with
  | case1 previous =>
      rw [List.map_nil, memberFrom_nil, memberFrom_nil]
      exact ⟨rfl, rfl, rfl⟩
  | case2 previous t rest hsign hinterface =>
      have hnext : nextText (rest.map g) = "interface" := (nextText_map hg rest).trans hinterface
      rw [List.map_cons, memberFrom_annotationType hsign hinterface,
        memberFrom_annotationType ((hg t).trans hsign) hnext, ← List.map_tail]
      exact typeDeclaration_map hg _ start start' rest.tail
  | case3 previous t rest hsign hinterface ih =>
      rw [← nextText_map hg] at hinterface
      rw [List.map_cons, memberFrom_annotationSign ((hg t).trans hsign) hinterface,
        skipAnnotationBody_map hg]
      rw [nextText_map hg] at hinterface
      rw [memberFrom_annotationSign hsign hinterface]
      exact ih
  | case4 previous t rest hsign kind hname hkind =>
      rw [List.map_cons, memberFrom_typeKeyword hkind hname,
        memberFrom_typeKeyword (by rwa [hg]) (by rwa [nextText_map hg])]
      exact typeDeclaration_map hg kind start start' rest
  | case5 previous t rest hsign hparen =>
      rw [List.map_cons, memberFrom_parameters hparen.1 hparen.2,
        memberFrom_parameters ((hg t).trans hparen.1) hparen.2, ← List.map_cons]
      exact callableDeclaration_map hg enclosing previous start start' (t :: rest)
  | case6 previous t rest hsign hparen hbrace =>
      rw [List.map_cons, memberFrom_brace hbrace, memberFrom_brace ((hg t).trans hbrace),
        ← List.map_cons, skipBraces_map hg]
      exact ⟨rfl, rfl, rfl⟩
  | case7 previous t rest hsign hparen hbrace hassign =>
      rw [List.map_cons, memberFrom_value hparen hassign,
        memberFrom_value (by rwa [hg]) (by rwa [hg]), ← List.map_cons, skipStatement_map hg]
      exact ⟨rfl, rfl, rfl⟩
  | case8 previous t rest hsign hparen hbrace hassign hsemicolon =>
      rw [List.map_cons, memberFrom_semicolon hsemicolon,
        memberFrom_semicolon ((hg t).trans hsemicolon)]
      exact ⟨rfl, rfl, rfl⟩
  | case9 previous t rest hsign hparen hbrace hassign hsemicolon hclose =>
      rw [List.map_cons, memberFrom_close hclose, memberFrom_close ((hg t).trans hclose)]
      exact ⟨rfl, rfl, rfl⟩
  | case10 previous t rest hsign hparen hbrace hassign hsemicolon hclose hkeyword ih =>
      rw [memberFrom_other hsign hkeyword]
      rw [← hg t, ← nextText_map hg] at hkeyword
      rw [← hg t] at hsign
      rw [List.map_cons, memberFrom_other hsign hkeyword]
      simp only [hg, if_neg hparen, if_neg hbrace, if_neg hassign, if_neg hsemicolon, if_neg hclose]
      exact ih

theorem member_map (enclosing : Option Enclosing) (start : Token) (rest : List Token) :
    (member enclosing start rest).Follows g (member enclosing (g start) (rest.map g)) := by
  unfold member
  rw [hg, nextText_map hg, ← List.map_cons]
  split
  · exact ⟨rfl, skipBraces_map hg (start :: rest), rfl⟩
  · split
    · exact ⟨rfl, skipBraces_map hg rest, rfl⟩
    · exact memberFrom_map hg enclosing start (g start) "" (start :: rest)

/-- The scan keeps its open bodies in step, whatever tokens carry the texts. -/
theorem scanFrom_map (bodies : List Enclosing) (ts : List Token) :
    (scanFrom bodies (ts.map g)).map Declaration.signature =
      (scanFrom bodies ts).map Declaration.signature := by
  induction bodies, ts using scanFrom.induct with
  | case1 bodies => rw [List.map_nil]
  | case2 bodies t rest hsemicolon ih =>
      rw [List.map_cons, scanFrom_semicolon bodies ((hg t).trans hsemicolon),
        scanFrom_semicolon bodies hsemicolon]
      exact ih
  | case3 bodies t rest hsemicolon hclose ih =>
      rw [List.map_cons, scanFrom_close bodies ((hg t).trans hclose), scanFrom_close bodies hclose]
      exact ih
  | case4 bodies t rest hsemicolon hclose hpreamble ih =>
      have hreplaced : bodies.isEmpty ∧ isPreamble (g t).text := by rwa [hg]
      rw [List.map_cons, scanFrom_statement hreplaced, scanFrom_statement hpreamble,
        ← List.map_cons, skipStatement_map hg]
      exact ih
  | case5 bodies t rest hsemicolon hclose hpreamble step ih =>
      have hstep := member_map hg bodies.head? t rest
      rw [List.map_cons, scanFrom_member (by rwa [hg]) (by rwa [hg])
          fun hnil => by simpa [hnil, hg] using hpreamble,
        scanFrom_member hsemicolon hclose fun hnil => by simpa [hnil] using hpreamble,
        Step.resume, Step.resume, hstep.opened, hstep.rest, List.map_append, List.map_append,
        hstep.found]
      exact congrArg _ ih

end Replaced

/-- The kinds and names that a scan finds depend on the texts of the tokens alone. -/
theorem scan_signature_of_texts {ts us : List Token}
    (h : ts.map Token.text = us.map Token.text) :
    (scan ts).map Declaration.signature = (scan us).map Declaration.signature := by
  -- all tokens are moved to one place, where tokens with the same text are the same
  let g : Token → Token := fun t => ⟨t.text, 0, 0⟩
  have hg : ∀ t, (g t).text = t.text := fun _ => rfl
  have hmap : ∀ vs : List Token, vs.map g = (vs.map Token.text).map (⟨·, 0, 0⟩) := by
    intro vs
    rw [List.map_map]
    rfl
  calc (scan ts).map Declaration.signature
      = (scanFrom [] (ts.map g)).map Declaration.signature := (scanFrom_map hg [] ts).symm
    _ = (scanFrom [] (us.map g)).map Declaration.signature := by rw [hmap, hmap, h]
    _ = (scan us).map Declaration.signature := scanFrom_map hg [] us

end JavadocTags.Java
