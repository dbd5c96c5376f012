import JavadocTags.Declaration
import JavadocTags.Java.Skip

/-!
# Declarations among tokens

The scanner reads tokens from left to right and keeps the stack of the types whose bodies are open.
One step reads one member: it reports what the member declares, says where the next member starts
and, for a type with a body, opens that body. Bodies of methods and initializers are stepped over,
so local classes and the members of anonymous classes are not reported.
-/
namespace JavadocTags.Java

/-- An open type body. A record has no kind of its own. -/
structure Enclosing where
  kind : Option DeclarationKind
  name : String
deriving DecidableEq, Repr

/-- What one step reads: the declarations found, the tokens left, and the body it opens. -/
structure Step where
  found : List Declaration
  rest : List Token
  opened : Option Enclosing
deriving Repr

/-- A declaration that starts at a token. -/
def declarationAt (start : Token) (kind : DeclarationKind) (name : String) : Declaration :=
  ⟨kind, name, start.line, start.column⟩

/-- The keyword of a type declaration, with the kind it declares. -/
def typeKeyword? (text : String) : Option (Option DeclarationKind) :=
  if text = "class" then some (some .classType)
  else if text = "interface" then some (some .interfaceType)
  else if text = "enum" then some (some .enumType)
  else if text = "record" then some none
  else none

/-- The constants at the start of an enum body, and the tokens after them. A semicolon ends the
list; so does the closing brace of the body, which is left. -/
def enumConstants : List Token → List Declaration × List Token
  | [] => ([], [])
  | t :: rest =>
      if t.text = ";" then ([], rest)
      else if t.text = "\x7d" then ([], t :: rest)
      else if t.text = "," then enumConstants rest
      else
        match _h : skipAnnotations (t :: rest) with
        | [] => ([], [])
        | name :: after =>
            if isIdentifier name.text then
              let afterArguments := skipArguments after
              let next :=
                if nextText afterArguments = "\x7b" then skipBraces afterArguments
                else afterArguments
              let (found, left) := enumConstants next
              (declarationAt t .enumConstant name.text :: found, left)
            else enumConstants after
termination_by ts => ts.length
decreasing_by
  · simp
  · have hskip := skipAnnotations_length_le (t :: rest)
    rw [_h] at hskip
    have harguments := skipArguments_length_le after
    have hbraces := skipBrackets_length_le "\x7b" "\x7d" 0 (skipArguments after)
    simp only [List.length_cons] at hskip ⊢
    split
    · simp only [skipBraces]
      omega
    · omega
  · have hskip := skipAnnotations_length_le (t :: rest)
    rw [_h] at hskip
    simp only [List.length_cons] at hskip ⊢
    omega

/-- A type declaration whose keyword has been read. -/
def typeDeclaration (kind : Option DeclarationKind) (start : Token) (ts : List Token) : Step :=
  let name := nextText ts
  let found := kind.toList.map (declarationAt start · name)
  match skipHeader ts.tail with
  | [] => ⟨found, [], none⟩
  | t :: rest =>
      if t.text = "\x7b" then
        if kind = some .enumType then
          let (constants, left) := enumConstants rest
          ⟨found ++ constants, left, some ⟨kind, name⟩⟩
        else ⟨found, rest, some ⟨kind, name⟩⟩
      else ⟨found, t :: rest, none⟩

/-- The kind of a declaration with parameters, from its name and the body that it stands in. -/
def callableKind (enclosing : Option Enclosing) (name : String) : DeclarationKind :=
  match enclosing with
  | none => .method
  | some e =>
      if e.kind = some .annotationType then .annotationField
      else if name = e.name then .constructor
      else .method

/-- A method, constructor or annotation field whose name has been read; its parameter list comes
next. -/
def callableDeclaration (enclosing : Option Enclosing) (name : String) (start : Token)
    (ts : List Token) : Step :=
  let kind := callableKind enclosing name
  ⟨[declarationAt start kind name],
    skipCallableTail (kind == .annotationField) (skipParentheses ts), none⟩

/-- Reads a member that begins at `start` and whose last word so far is `previous`. -/
def memberFrom (enclosing : Option Enclosing) (start : Token) (previous : String) :
    List Token → Step
  | [] => ⟨[], [], none⟩
  | t :: rest =>
      if t.text = "@" then
        if nextText rest = "interface" then
          typeDeclaration (some .annotationType) start rest.tail
        else memberFrom enclosing start previous (skipAnnotationBody rest)
      else
        match typeKeyword? t.text, isIdentifier (nextText rest) with
        | some kind, true => typeDeclaration kind start rest
        | _, _ =>
            if t.text = "(" ∧ isIdentifier previous then
              callableDeclaration enclosing previous start (t :: rest)
            else if t.text = "\x7b" then ⟨[], skipBraces (t :: rest), none⟩
            else if t.text = "=" ∨ t.text = "(" then ⟨[], skipStatement (t :: rest), none⟩
            else if t.text = ";" then ⟨[], rest, none⟩
            else if t.text = "\x7d" then ⟨[], t :: rest, none⟩
            else memberFrom enclosing start t.text rest
termination_by ts => ts.length
decreasing_by
  · exact Nat.lt_succ_of_le (skipAnnotationBody_length_le rest)
  · simp

section
variable {enclosing : Option Enclosing} {start t : Token} {rest : List Token} {previous : String}

@[simp] theorem memberFrom_nil (enclosing : Option Enclosing) (start : Token) (previous : String) :
    memberFrom enclosing start previous [] = ⟨[], [], none⟩ := by
  rw [memberFrom]

@[simp]
theorem memberFrom_annotationType (hsign : t.text = "@") (hnext : nextText rest = "interface") :
    memberFrom enclosing start previous (t :: rest) =
      typeDeclaration (some .annotationType) start rest.tail := by
  rw [memberFrom, if_pos hsign, if_pos hnext]

theorem memberFrom_annotationSign (hsign : t.text = "@") (hnext : nextText rest ≠ "interface") :
    memberFrom enclosing start previous (t :: rest) =
      memberFrom enclosing start previous (skipAnnotationBody rest) := by
  rw [memberFrom, if_pos hsign, if_neg hnext]

theorem memberFrom_typeKeyword {kind : Option DeclarationKind}
    (hkind : typeKeyword? t.text = some kind) (hname : isIdentifier (nextText rest) = true) :
    memberFrom enclosing start previous (t :: rest) = typeDeclaration kind start rest := by
  have hsign : t.text ≠ "@" := by
    intro hsign
    rw [hsign] at hkind
    cases hkind
  rw [memberFrom, if_neg hsign, hkind, hname]

/-- How a member is read on at a token that begins neither an annotation nor a type. -/
theorem memberFrom_other (hsign : t.text ≠ "@")
    (hkeyword : ∀ kind, typeKeyword? t.text = some kind →
      isIdentifier (nextText rest) = true → False) :
    memberFrom enclosing start previous (t :: rest) =
      if t.text = "(" ∧ isIdentifier previous then
        callableDeclaration enclosing previous start (t :: rest)
      else if t.text = "\x7b" then ⟨[], skipBraces (t :: rest), none⟩
      else if t.text = "=" ∨ t.text = "(" then ⟨[], skipStatement (t :: rest), none⟩
      else if t.text = ";" then ⟨[], rest, none⟩
      else if t.text = "\x7d" then ⟨[], t :: rest, none⟩
      else memberFrom enclosing start t.text rest := by
  rw [memberFrom, if_neg hsign]
  split
  · rename_i kind hkind hname
    exact (hkeyword kind hkind hname).elim
  · rfl

@[simp] theorem memberFrom_parameters (h : t.text = "(") (hname : isIdentifier previous = true) :
    memberFrom enclosing start previous (t :: rest) =
      callableDeclaration enclosing previous start (t :: rest) := by
  rw [memberFrom_other (by simp [h]) (by simp [h, typeKeyword?]), if_pos ⟨h, hname⟩]

@[simp] theorem memberFrom_brace (h : t.text = "\x7b") :
    memberFrom enclosing start previous (t :: rest) = ⟨[], skipBraces (t :: rest), none⟩ := by
  rw [memberFrom_other (by simp [h]) (by simp [h, typeKeyword?]), if_neg (by simp [h]), if_pos h]

theorem memberFrom_value (hcallable : ¬ (t.text = "(" ∧ isIdentifier previous = true))
    (h : t.text = "=" ∨ t.text = "(") :
    memberFrom enclosing start previous (t :: rest) = ⟨[], skipStatement (t :: rest), none⟩ := by
  have hsign : t.text ≠ "@" ∧ t.text ≠ "\x7b" ∧ typeKeyword? t.text = none := by
    rcases h with h | h <;> simp [h, typeKeyword?]
  rw [memberFrom_other hsign.1 (by simp [hsign.2.2]), if_neg hcallable, if_neg hsign.2.1, if_pos h]

@[simp] theorem memberFrom_semicolon (h : t.text = ";") :
    memberFrom enclosing start previous (t :: rest) = ⟨[], rest, none⟩ := by
  rw [memberFrom_other (by simp [h]) (by simp [h, typeKeyword?])]
  simp [h]

@[simp] theorem memberFrom_close (h : t.text = "\x7d") :
    memberFrom enclosing start previous (t :: rest) = ⟨[], t :: rest, none⟩ := by
  rw [memberFrom_other (by simp [h]) (by simp [h, typeKeyword?])]
  simp [h]

end

/-- Reads the member at the front of the tokens. -/
def member (enclosing : Option Enclosing) (start : Token) (rest : List Token) : Step :=
  if start.text = "\x7b" then ⟨[], skipBraces (start :: rest), none⟩
  else if start.text = "static" ∧ nextText rest = "\x7b" then ⟨[], skipBraces rest, none⟩
  else memberFrom enclosing start "" (start :: rest)

theorem enumConstants_length_le (ts : List Token) :
    (enumConstants ts).2.length ≤ ts.length := by
  fun_induction enumConstants ts with
  | case1 => simp
  | case2 => simp
  | case3 => simp
  | case4 t rest _ _ _ ih =>
      simp only [List.length_cons]
      omega
  | case5 => simp
  | case6 t rest _ _ _ name after _h _ afterArguments next found left hrec ih =>
      have hskip := skipAnnotations_length_le (t :: rest)
      rw [_h] at hskip
      have harguments := skipArguments_length_le after
      have hbraces := skipBrackets_length_le "\x7b" "\x7d" 0 (skipArguments after)
      have hnext : next.length ≤ after.length := by
        simp only [next, afterArguments, skipBraces]
        split <;> omega
      rw [hrec] at ih
      simp only [List.length_cons] at hskip ih ⊢
      omega
  | case7 t rest _ _ _ name after _h _ ih =>
      have hskip := skipAnnotations_length_le (t :: rest)
      rw [_h] at hskip
      simp only [List.length_cons] at hskip ih ⊢
      omega

theorem typeDeclaration_length_le (kind : Option DeclarationKind) (start : Token)
    (ts : List Token) : (typeDeclaration kind start ts).rest.length ≤ ts.length := by
  have hheader := skipHeader_length_le ts.tail
  have htail : ts.tail.length ≤ ts.length := by simp
  unfold typeDeclaration
  split
  · simp
  · rename_i t rest heq
    rw [heq] at hheader
    simp only [List.length_cons] at hheader
    split
    · split
      · have := enumConstants_length_le rest
        simp only
        omega
      · simp only
        omega
    · simp only [List.length_cons]
      omega

theorem callableDeclaration_length_le (enclosing : Option Enclosing) (name : String)
    (start t : Token) (rest : List Token) :
    (callableDeclaration enclosing name start (t :: rest)).rest.length ≤ rest.length :=
  Nat.le_trans (skipCallableTail_length_le _ _) (skipParentheses_cons_length_le t rest)

theorem memberFrom_length_le (enclosing : Option Enclosing) (start : Token) (previous : String)
    (ts : List Token) : (memberFrom enclosing start previous ts).rest.length ≤ ts.length := by
  fun_induction memberFrom enclosing start previous ts with
  | case1 => simp
  | case2 previous t rest _ _ =>
      have := typeDeclaration_length_le (some .annotationType) start rest.tail
      have htail : rest.tail.length ≤ rest.length := by simp
      simp only [List.length_cons]
      omega
  | case3 previous t rest _ _ ih =>
      have := skipAnnotationBody_length_le rest
      simp only [List.length_cons]
      omega
  | case4 previous t rest _ kind =>
      have := typeDeclaration_length_le kind start rest
      simp only [List.length_cons]
      omega
  | case5 previous t rest =>
      exact Nat.le_succ_of_le (callableDeclaration_length_le enclosing previous start t rest)
  | case6 previous t rest =>
      exact Nat.le_succ_of_le (skipBraces_cons_length_le t rest)
  | case7 previous t rest => exact skipStatement_length_le _
  | case8 => simp
  | case9 => simp
  | case10 previous t rest _ _ _ _ _ _ _ ih =>
      simp only [List.length_cons]
      omega

/-- Skipping a statement takes at least one token unless a closing brace comes first. -/
theorem skipStatement_cons_length_le (t : Token) (rest : List Token) (hclose : t.text ≠ "\x7d") :
    (skipStatement (t :: rest)).length ≤ rest.length := by
  unfold skipStatement
  split
  · exact Nat.le_refl _
  · split
    · exact Nat.le_trans (skipStatement_length_le _) (skipBraces_cons_length_le t rest)
    · split
      · exact Nat.le_trans (skipStatement_length_le _) (skipParentheses_cons_length_le t rest)
      · exact skipStatement_length_le rest

/-- A member that does not begin with a closing brace takes at least one token. -/
theorem member_length_le (enclosing : Option Enclosing) (start : Token) (rest : List Token)
    (hclose : start.text ≠ "\x7d") : (member enclosing start rest).rest.length ≤ rest.length := by
  unfold member
  split
  · exact skipBraces_cons_length_le start rest
  · split
    · exact skipBrackets_length_le ..
    · rw [memberFrom]
      split
      · split
        · have := typeDeclaration_length_le (some .annotationType) start rest.tail
          have htail : rest.tail.length ≤ rest.length := by simp
          omega
        · exact Nat.le_trans (memberFrom_length_le ..) (skipAnnotationBody_length_le rest)
      · split
        · exact typeDeclaration_length_le ..
        · split
          · exact callableDeclaration_length_le ..
          · split
            · exact skipStatement_cons_length_le start rest hclose
            · split
              · exact Nat.le_refl _
              · exact memberFrom_length_le ..

/-- A statement that stands before the types of a file and declares nothing. -/
def isPreamble (text : String) : Bool :=
  text == "package" || text == "import"

/-- The declarations among tokens, when the given bodies are open, the innermost first. -/
def scanFrom (bodies : List Enclosing) : List Token → List Declaration
  | [] => []
  | t :: rest =>
      if t.text = ";" then scanFrom bodies rest
      else if _hclose : t.text = "\x7d" then scanFrom bodies.tail rest
      else if bodies.isEmpty ∧ isPreamble t.text then scanFrom bodies (skipStatement (t :: rest))
      else
        let step := member bodies.head? t rest
        step.found ++ scanFrom (step.opened.toList ++ bodies) step.rest
termination_by ts => ts.length
decreasing_by
  · simp
  · simp
  · exact Nat.lt_succ_of_le (skipStatement_cons_length_le t rest _hclose)
  · exact Nat.lt_succ_of_le (member_length_le bodies.head? t rest _hclose)

/-- What is reported from a step on, when the given bodies are open. -/
def Step.resume (bodies : List Enclosing) (step : Step) : List Declaration :=
  step.found ++ scanFrom (step.opened.toList ++ bodies) step.rest

theorem isPreamble_ne {text other : String} (h : isPreamble text = true)
    (hother : isPreamble other = false) : text ≠ other := by
  rintro rfl
  rw [h] at hother
  cases hother

@[simp] theorem scanFrom_semicolon (bodies : List Enclosing) {t : Token} (h : t.text = ";")
    (rest : List Token) : scanFrom bodies (t :: rest) = scanFrom bodies rest := by
  rw [scanFrom, if_pos h]

@[simp] theorem scanFrom_close (bodies : List Enclosing) {t : Token} (h : t.text = "\x7d")
    (rest : List Token) : scanFrom bodies (t :: rest) = scanFrom bodies.tail rest := by
  rw [scanFrom, if_neg (by simp [h]), dif_pos h]

theorem scanFrom_statement {bodies : List Enclosing} {t : Token}
    (h : bodies.isEmpty ∧ isPreamble t.text) (rest : List Token) :
    scanFrom bodies (t :: rest) = scanFrom bodies (skipStatement (t :: rest)) := by
  rw [scanFrom, if_neg (isPreamble_ne h.2 (by decide)), dif_neg (isPreamble_ne h.2 (by decide)),
    if_pos h]

theorem scanFrom_member {bodies : List Enclosing} {t : Token} {rest : List Token}
    (hsemi : t.text ≠ ";") (hclose : t.text ≠ "\x7d")
    (hpreamble : bodies = [] → isPreamble t.text = false) :
    scanFrom bodies (t :: rest) = (member bodies.head? t rest).resume bodies := by
  have hno : ¬ (bodies.isEmpty = true ∧ isPreamble t.text = true) := by
    rintro ⟨hempty, htext⟩
    rw [hpreamble (List.isEmpty_iff.1 hempty)] at htext
    cases htext
  rw [scanFrom, if_neg hsemi, dif_neg hclose, if_neg hno, Step.resume]

/-- The declarations of a file, in the order in which they begin to be read. -/
def scan (ts : List Token) : List Declaration :=
  scanFrom [] ts

end JavadocTags.Java
