import JavadocTags.Unicode.Numeric
import JavadocTags.Text.Lines

/-!
# Tokens of Java text

A token is a word, a number, one of `...`, `::` and `->`, or any other single character that is no
blank. A word starts with an ASCII letter, an underscore or a dollar sign; a letter of another
script that stands at the start of a word is a token of its own.
-/
namespace JavadocTags.Java

structure Token where
  text : String
  line : Nat
  column : Nat
deriving DecidableEq, Repr

def startsWord (c : Char) : Bool :=
  c.isAlpha || c == '_' || c == '$'

def continuesWord (c : Char) : Bool :=
  Unicode.isWord c || c == '$'

/-- A character that continues a number. -/
def continuesNumber (c : Char) : Bool :=
  Unicode.isWord c || c == '.'

/-- The rest of the token that `first` starts, and what follows the token. -/
def splitLexeme (first : Char) (rest : List Char) : List Char × List Char :=
  if startsWord first then (rest.takeWhile continuesWord, rest.dropWhile continuesWord)
  else if Unicode.isDecimal first then
    (rest.takeWhile continuesNumber, rest.dropWhile continuesNumber)
  else
    match first, rest with
    | '.', '.' :: '.' :: r => (['.', '.'], r)
    | ':', ':' :: r => ([':'], r)
    | '-', '>' :: r => (['>'], r)
    | _, r => ([], r)

@[simp] theorem splitLexeme_append (first : Char) (rest : List Char) :
    (splitLexeme first rest).1 ++ (splitLexeme first rest).2 = rest := by
  unfold splitLexeme
  split
  · simp
  · split
    · simp
    · split <;> simp

theorem splitLexeme_length_le (first : Char) (rest : List Char) :
    (splitLexeme first rest).2.length ≤ rest.length := by
  have h := congrArg List.length (splitLexeme_append first rest)
  rw [List.length_append] at h
  omega

/-- The tokens of a line from a column on. -/
def tokensOfLine (line column : Nat) : List Char → List Token
  | [] => []
  | c :: rest =>
      if Text.isBlank c then tokensOfLine line (column + 1) rest
      else
        let tail := (splitLexeme c rest).1
        ⟨String.ofList (c :: tail), line, column⟩
          :: tokensOfLine line (column + 1 + tail.length) (splitLexeme c rest).2
termination_by text => text.length
decreasing_by
  · simp
  · have := splitLexeme_length_le c rest
    simp only [List.length_cons]
    omega

theorem tokensOfLine_blank {text : List Char} (h : ∀ c ∈ text, Text.isBlank c = true)
    (line column : Nat) : tokensOfLine line column text = [] := by
  induction text generalizing column with
  | nil => rw [tokensOfLine]
  | cons c text ih =>
      rw [List.forall_mem_cons] at h
      rw [tokensOfLine, if_pos h.1, ih h.2]

/-- The tokens of consecutive lines, the first of which has the number `line`. -/
def tokensFrom (line : Nat) : List (List Char) → List Token
  | [] => []
  | text :: rest => tokensOfLine line 0 text ++ tokensFrom (line + 1) rest

def tokens (lines : List (List Char)) : List Token :=
  tokensFrom 1 lines

/-- An identifier starts with a letter, an underscore or a dollar sign. -/
def isIdentifier (text : String) : Bool :=
  match text.toList with
  | [] => false
  | c :: _ => Unicode.isLetter c || c == '_' || c == '$'

end JavadocTags.Java
