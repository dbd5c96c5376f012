import JavadocTags.Java.Token

/-!
# Skipping tokens

Bodies, argument lists, initializers and annotations are stepped over without a look at what they
hold. Each function returns the tokens after the part it skips, which are never more than it was
given.
-/
namespace JavadocTags.Java

/-- The text of the next token, or the empty text at the end. -/
def nextText : List Token → String
  | [] => ""
  | t :: _ => t.text

@[simp] theorem nextText_cons (t : Token) (ts : List Token) : nextText (t :: ts) = t.text := rfl

theorem nextText_append {ts : List Token} (hts : ts ≠ []) (rest : List Token) :
    nextText (ts ++ rest) = nextText ts := by
  cases ts with
  | nil => exact absurd rfl hts
  | cons t ts => rfl

/-- Skips to just past the bracket that closes the outermost of `depth` open ones and of those
that open on the way. -/
def skipBrackets (opening closing : String) : Nat → List Token → List Token
  | _, [] => []
  | depth, t :: rest =>
      if t.text = opening then skipBrackets opening closing (depth + 1) rest
      else if t.text = closing then
        if depth = 1 then rest else skipBrackets opening closing (depth - 1) rest
      else skipBrackets opening closing depth rest

/-- Skips from an opening brace to just past its partner. -/
def skipBraces (ts : List Token) : List Token :=
  skipBrackets "\x7b" "\x7d" 0 ts

def skipParentheses (ts : List Token) : List Token :=
  skipBrackets "(" ")" 0 ts

theorem skipBrackets_length_le (opening closing : String) (depth : Nat) (ts : List Token) :
    (skipBrackets opening closing depth ts).length ≤ ts.length := by
  fun_induction skipBrackets opening closing depth ts with
  | case1 => simp
  | case2 _ t rest _ ih => exact Nat.le_succ_of_le ih
  | case3 t rest _ _ => simp
  | case4 _ t rest _ _ _ ih => exact Nat.le_succ_of_le ih
  | case5 _ t rest _ _ ih => exact Nat.le_succ_of_le ih

theorem skipBrackets_cons_length_le (opening closing : String) (depth : Nat) (t : Token)
    (rest : List Token) :
    (skipBrackets opening closing depth (t :: rest)).length ≤ rest.length := by
  unfold skipBrackets
  split
  · exact skipBrackets_length_le ..
  · split
    · split
      · exact Nat.le_refl _
      · exact skipBrackets_length_le ..
    · exact skipBrackets_length_le ..

theorem skipBraces_cons_length_le (t : Token) (rest : List Token) :
    (skipBraces (t :: rest)).length ≤ rest.length :=
  skipBrackets_cons_length_le ..

theorem skipParentheses_cons_length_le (t : Token) (rest : List Token) :
    (skipParentheses (t :: rest)).length ≤ rest.length :=
  skipBrackets_cons_length_le ..

/-- Skips to just past the next semicolon outside brackets, or up to a closing brace. -/
def skipStatement : List Token → List Token
  | [] => []
  | t :: rest =>
      if t.text = ";" then rest
      else if t.text = "\x7b" then skipStatement (skipBraces (t :: rest))
      else if t.text = "(" then skipStatement (skipParentheses (t :: rest))
      else if t.text = "\x7d" then t :: rest
      else skipStatement rest
termination_by ts => ts.length
decreasing_by
  · exact Nat.lt_succ_of_le (skipBraces_cons_length_le t rest)
  · exact Nat.lt_succ_of_le (skipParentheses_cons_length_le t rest)
  · simp

theorem skipStatement_length_le (ts : List Token) : (skipStatement ts).length ≤ ts.length := by
  fun_induction skipStatement ts with
  | case1 => simp
  | case2 => simp
  | case3 t rest _ _ ih =>
      have := skipBraces_cons_length_le t rest
      simp only [List.length_cons]
      omega
  | case4 t rest _ _ _ ih =>
      have := skipParentheses_cons_length_le t rest
      simp only [List.length_cons]
      omega
  | case5 => simp
  | case6 t rest _ _ _ _ ih =>
      simp only [List.length_cons]
      omega

/-- Skips the further parts `.b.c` of a qualified name. -/
def skipQualifiers : List Token → List Token
  | dot :: name :: rest =>
      if dot.text = "." ∧ isIdentifier name.text then skipQualifiers rest
      else dot :: name :: rest
  | ts => ts

theorem skipQualifiers_length_le (ts : List Token) : (skipQualifiers ts).length ≤ ts.length := by
  fun_induction skipQualifiers ts with
  | case1 dot name rest _ ih =>
      simp only [List.length_cons]
      omega
  | case2 => exact Nat.le_refl _
  | case3 => exact Nat.le_refl _

def skipArguments (ts : List Token) : List Token :=
  if nextText ts = "(" then skipParentheses ts else ts

theorem skipArguments_length_le (ts : List Token) : (skipArguments ts).length ≤ ts.length := by
  unfold skipArguments
  split
  · exact skipBrackets_length_le ..
  · exact Nat.le_refl _

/-- Skips what follows the `@` of an annotation: its qualified name and its arguments. -/
def skipAnnotationBody (ts : List Token) : List Token :=
  skipArguments (if isIdentifier (nextText ts) then skipQualifiers ts.tail else ts)

theorem skipAnnotationBody_length_le (ts : List Token) :
    (skipAnnotationBody ts).length ≤ ts.length := by
  unfold skipAnnotationBody
  refine Nat.le_trans (skipArguments_length_le _) ?_
  split
  · refine Nat.le_trans (skipQualifiers_length_le _) ?_
    simp
  · exact Nat.le_refl _

def skipAnnotations : List Token → List Token
  | [] => []
  | t :: rest => if t.text = "@" then skipAnnotations (skipAnnotationBody rest) else t :: rest
termination_by ts => ts.length
decreasing_by exact Nat.lt_succ_of_le (skipAnnotationBody_length_le rest)

theorem skipAnnotations_length_le (ts : List Token) :
    (skipAnnotations ts).length ≤ ts.length := by
  fun_induction skipAnnotations ts with
  | case1 => simp
  | case2 t rest _ ih =>
      have := skipAnnotationBody_length_le rest
      simp only [List.length_cons]
      omega
  | case3 => simp

/-- Skips the rest of a type's header: up to its body, or to a semicolon or a closing brace outside
parentheses. -/
def skipHeader : List Token → List Token
  | [] => []
  | t :: rest =>
      if t.text = "\x7b" ∨ t.text = ";" ∨ t.text = "\x7d" then t :: rest
      else if t.text = "(" then skipHeader (skipParentheses (t :: rest))
      else skipHeader rest
termination_by ts => ts.length
decreasing_by
  · exact Nat.lt_succ_of_le (skipParentheses_cons_length_le t rest)
  · simp

@[simp] theorem skipHeader_brace {t : Token} (h : t.text = "\x7b") (rest : List Token) :
    skipHeader (t :: rest) = t :: rest := by
  rw [skipHeader, if_pos (.inl h)]

theorem skipHeader_length_le (ts : List Token) : (skipHeader ts).length ≤ ts.length := by
  fun_induction skipHeader ts with
  | case1 => simp
  | case2 => simp
  | case3 t rest _ _ ih =>
      have := skipParentheses_cons_length_le t rest
      simp only [List.length_cons]
      omega
  | case4 t rest _ _ ih =>
      simp only [List.length_cons]
      omega

/-- Skips what follows the parameters of a method, constructor or annotation field: a clause and
then a body or a semicolon. The braces in an annotation field belong to its default value and do
not end it. -/
def skipCallableTail (isField : Bool) : List Token → List Token
  | [] => []
  | t :: rest =>
      if t.text = "\x7b" then
        if isField then skipCallableTail isField (skipBraces (t :: rest))
        else skipBraces (t :: rest)
      else if t.text = "(" then skipCallableTail isField (skipParentheses (t :: rest))
      else if t.text = ";" then rest
      else if t.text = "\x7d" then t :: rest
      else skipCallableTail isField rest
termination_by ts => ts.length
decreasing_by
  · exact Nat.lt_succ_of_le (skipBraces_cons_length_le t rest)
  · exact Nat.lt_succ_of_le (skipParentheses_cons_length_le t rest)
  · simp

theorem skipCallableTail_length_le (isField : Bool) (ts : List Token) :
    (skipCallableTail isField ts).length ≤ ts.length := by
  fun_induction skipCallableTail isField ts with
  | case1 => simp
  | case2 t rest _ _ ih =>
      have := skipBraces_cons_length_le t rest
      simp only [List.length_cons]
      omega
  | case3 t rest _ _ =>
      exact Nat.le_succ_of_le (skipBraces_cons_length_le t rest)
  | case4 t rest _ _ ih =>
      have := skipParentheses_cons_length_le t rest
      simp only [List.length_cons]
      omega
  | case5 => simp
  | case6 => simp
  | case7 t rest _ _ _ _ ih =>
      simp only [List.length_cons]
      omega

end JavadocTags.Java
