import JavadocTags.Pattern.Basic
import JavadocTags.Text.Lines

/-!
# Tag patterns

A tag is searched in each line of a comment. Its name is a fragment of a pattern, to which a group
is added that holds the rest of the line; it is the last group, so that the fragment may have
groups of its own. The fragment is not set in parentheses: the bar of an alternation in it leaves
the added group to the last branch, and when another branch matches, the content is what follows
the match, without leading blanks.
-/
namespace JavadocTags

/-- A line on which a tag was found, counted from zero, and what follows the tag. -/
structure TagMatch where
  lineOffset : Nat
  content : List Char
deriving DecidableEq, Repr

namespace TagPattern

/-- The characters that an escape takes its meaning from. -/
def specialChars : List Char :=
  ['(', ')', '[', ']', '{', '}', '?', '*', '+', '-', '|', '^', '$', '\\', '.', '&', '~', '#', ' ',
    '\t', '\n', '\r', '\x0b', '\x0c']

/-- A pattern fragment that matches a text and nothing else. -/
def escape (text : List Char) : List Char :=
  text.flatMap fun c => if specialChars.contains c then ['\\', c] else [c]

/-- What is added to a fragment: blanks, and the group of the rest of the line. -/
def suffix : String := "\\s*(.*$)"

def sourceOf (tag : String) (literal : Bool) : String :=
  (if literal then String.ofList (escape tag.toList) else tag) ++ suffix

/-- The content of a tag in a line in which its pattern matches. -/
def content (p : Pattern) (line : List Char) (found : Pattern.Match) : List Char :=
  match found.groupStart? p.groups with
  | some start => line.drop start
  | none => Text.trimStart (line.drop found.stop)

/-- The match in a line with a given number. -/
def findInLine? (p : Pattern) (line : List Char) (offset : Nat) : Option TagMatch :=
  (p.search? line).map fun found => ⟨offset, content p line found⟩

/-- The matches in the lines of a comment, in order; each line is searched on its own. -/
def find (p : Pattern) (lines : List (List Char)) : List TagMatch :=
  lines.zipIdx.filterMap fun (line, offset) => findInLine? p line offset

end TagPattern

end JavadocTags
