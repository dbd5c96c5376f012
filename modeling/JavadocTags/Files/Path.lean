import JavadocTags.Text.Lines

/-!
# Paths

A path is read from text with its repeated slashes and its parts `.` dropped; a part `..` stays,
since it names a directory only where there is one to leave. Two slashes in front are kept apart
from one.
-/
namespace JavadocTags

/-- Where a path starts: in the working directory, at the root, or at the root written as two
slashes. -/
inductive PathStart where
  | here
  | root
  | doubleRoot
deriving DecidableEq, Repr

structure Path where
  start : PathStart
  parts : List String
deriving DecidableEq, Repr

namespace Path

/-- The start that a number of slashes in front stands for. -/
def startOf (slashes : Nat) : PathStart :=
  match slashes with
  | 0 => .here
  | 2 => .doubleRoot
  | _ => .root

def ofText (text : String) : Path :=
  let front := text.toList.takeWhile (· = '/')
  let names := (text.toList.splitOn '/').map String.ofList
  ⟨startOf front.length, names.filter fun name => name ≠ "" ∧ name ≠ "."⟩

def startText : PathStart → String
  | .here => ""
  | .root => "/"
  | .doubleRoot => "//"

/-- The text of a path; the path of no parts is written as a dot. -/
def toText (p : Path) : String :=
  let text := startText p.start ++ String.intercalate "/" p.parts
  if text = "" then "." else text

def below (p : Path) (names : List String) : Path :=
  ⟨p.start, p.parts ++ names⟩

def absolute (names : List String) : Path :=
  ⟨.root, names⟩

/-- The path of a name in the working directory. -/
def named (name : String) : Path :=
  ⟨.here, [name]⟩

/-- Where the names of a path begin, from a working directory. -/
def base (p : Path) (cwd : List String) : List String :=
  match p.start with
  | .here => cwd
  | .root => []
  | .doubleRoot => []

/-- Whether the names of one path come before or equal those of another, name by name. -/
def partsLe : List String → List String → Bool
  | [], _ => true
  | _ :: _, [] => false
  | a :: as, b :: bs => if a = b then partsLe as bs else decide (a < b)

end Path

end JavadocTags
