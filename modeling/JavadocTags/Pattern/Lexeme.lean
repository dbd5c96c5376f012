/-!
# Lexemes of patterns

The text of a pattern is cut into single characters and pairs of a backslash and the character after
it. A backslash at the very end has no partner.
-/
namespace JavadocTags.Pattern

structure Lexeme where
  place : Nat
  escaped : Bool
  char : Char
deriving DecidableEq, Repr

namespace Lexeme

def text (x : Lexeme) : List Char :=
  if x.escaped then ['\\', x.char] else [x.char]

def stop (x : Lexeme) : Nat :=
  x.place + x.text.length

/-- Whether a lexeme is a given character, not escaped. -/
def isChar (x : Lexeme) (c : Char) : Bool :=
  !x.escaped && x.char == c

/-- Whether a lexeme is one of some characters, not escaped. -/
def isOneOf (x : Lexeme) (cs : List Char) : Bool :=
  !x.escaped && cs.contains x.char

end Lexeme

/-- The lexemes of a text that begins at a place, and whether a backslash is left over. -/
def lexemes (place : Nat) : List Char → List Lexeme × Bool
  | [] => ([], false)
  | ['\\'] => ([], true)
  | '\\' :: c :: rest =>
      let (after, open?) := lexemes (place + 2) rest
      (⟨place, true, c⟩ :: after, open?)
  | c :: rest =>
      let (after, open?) := lexemes (place + 1) rest
      (⟨place, false, c⟩ :: after, open?)

end JavadocTags.Pattern
