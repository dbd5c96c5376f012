import JavadocTags.Text.Lines
import JavadocTags.Java.Segment
import JavadocTags.Java.Scanner

/-!
# Java sources

A source is a text with its lines, its Javadoc blocks and its declarations. A Javadoc block is
looked up by the line that it ends on; of two blocks that end on one line the later one counts.
The block that documents a line ends just above it, blank lines and `//` lines left out.
-/
namespace JavadocTags.Java

/-- A Javadoc block: its text line by line, and the line that it starts on. The first line starts
at the opening `/**` and the last one ends at the closing `*/`. -/
structure DocComment where
  lines : List (List Char)
  startLine : Int
deriving DecidableEq, Repr

namespace DocComment

/-- The line that the block ends on. -/
def endLine (comment : DocComment) : Int :=
  comment.startLine + comment.lines.length - 1

end DocComment

/-- The block between two positions, the second of which is that of its last character. -/
def commentBetween (lines : List (List Char)) (first last : Text.Position) : DocComment :=
  let block := (lines.take last.line).drop (first.line - 1)
  let cut :=
    match block.reverse with
    | [] => []
    | final :: before => (final.take (last.column + 1) :: before).reverse
  match cut with
  | [] => ⟨[], first.line⟩
  | opening :: after => ⟨opening.drop first.column :: after, first.line⟩

/-- The blocks that are the last to end on their line. -/
def lastOnEachLine : List DocComment → List DocComment
  | [] => []
  | comment :: rest =>
      if rest.any (·.endLine == comment.endLine) then lastOnEachLine rest
      else comment :: lastOnEachLine rest

/-- The Javadoc blocks of a text whose line ends are unified, in order. -/
def docComments (text : List Char) : List DocComment :=
  let index := Text.LineIndex.ofText text
  let lines := Text.lines text
  (javadocSpans text).map fun span =>
    commentBetween lines (index.position span.start) (index.position (span.stop - 1))

def declarations (text : List Char) : List Declaration :=
  scan (tokens (Text.lines (mask text)))

/-- A Java text prepared for checking. -/
structure Source where
  path : String
  lines : Array (List Char)
  javadocs : List DocComment
  declarations : List Declaration
deriving Repr

namespace Source

/-- Reads a Java text; its line ends may be of any kind. -/
def ofText (path : String) (text : List Char) : Source :=
  let unified := Text.unifyLineEnds text
  { path
    lines := (Text.lines unified).toArray
    javadocs := lastOnEachLine (docComments unified)
    declarations := Java.declarations unified }

/-- The text of a line; there is none before the first line or after the last. -/
def line (source : Source) (number : Nat) : List Char :=
  if number = 0 then [] else source.lines.getD (number - 1) []

/-- A line that holds nothing but blanks, or blanks and then `//`. -/
def isSkippable (source : Source) (number : Nat) : Bool :=
  let text := Text.trimStart (source.line number)
  text.isEmpty || ['/', '/'].isPrefixOf text

/-- The nearest line at or above a line that is not skipped; the first line never is. -/
def lineAbove (source : Source) : Nat → Nat
  | 0 => 0
  | 1 => 1
  | n + 2 => if source.isSkippable (n + 2) then source.lineAbove (n + 1) else n + 2

/-- The Javadoc block that ends on a line. -/
def javadocEndingOn? (source : Source) (number : Int) : Option DocComment :=
  source.javadocs.find? (·.endLine == number)

/-- The Javadoc block that documents a line. -/
def javadocBefore? (source : Source) (line : Int) : Option DocComment :=
  source.javadocEndingOn? (source.lineAbove (line - 1).toNat)

end Source

end JavadocTags.Java
