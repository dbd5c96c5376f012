/-!
# Blanks, lines and positions

Text under analysis is a list of characters; `String` is kept for names and messages. A blank is
a character of the Unicode property White_Space or one of the four information separators
U+001C to U+001F.

A line ends at a line feed, a carriage return or the pair of both. `unifyLineEnds` writes each of
them as one line feed; everything else in this library reads the unified text only.

`LineIndex` holds the offset at which each line starts and converts an offset to a line and a
column by binary search.
-/
namespace JavadocTags.Text

/-! ## Blank characters and trimming -/

/-- White space of every script, and the information separators. -/
def isBlank (c : Char) : Bool :=
  let n := c.toNat
  (0x9 ≤ n && n ≤ 0xD) || (0x1C ≤ n && n ≤ 0x20) || n == 0x85 || n == 0xA0 || n == 0x1680
    || (0x2000 ≤ n && n ≤ 0x200A) || n == 0x2028 || n == 0x2029 || n == 0x202F || n == 0x205F
    || n == 0x3000

def trimStart (text : List Char) : List Char :=
  text.dropWhile isBlank

def trim (text : List Char) : List Char :=
  (trimStart (trimStart text).reverse).reverse

def isBlankText (text : List Char) : Bool :=
  text.all isBlank

/-- The trimmed pieces between commas, blank ones dropped. -/
def commaItems (text : List Char) : List (List Char) :=
  ((text.splitOn ',').map trim).filter (· ≠ [])

/-! ## Line ends -/

/-- Writes each occurrence of one text as another one, from left to right. `skip` characters still
belong to the occurrence before. -/
def replaceFrom (old new : List Char) : (skip : Nat) → List Char → List Char
  | _, [] => []
  | skip + 1, _ :: rest => replaceFrom old new skip rest
  | 0, c :: rest =>
      if old.isPrefixOf (c :: rest) then new ++ replaceFrom old new (old.length - 1) rest
      else c :: replaceFrom old new 0 rest

/-- Writes each occurrence of a text that is not empty as another one. -/
def replaceAll (old new text : List Char) : List Char :=
  replaceFrom old new 0 text

/-- Writes every line end as a single line feed: first each pair, then each carriage return that is
left. -/
def unifyLineEnds (text : List Char) : List Char :=
  replaceAll ['\r'] ['\n'] (replaceAll ['\r', '\n'] ['\n'] text)

def lines (text : List Char) : List (List Char) :=
  text.splitOn '\n'

def unlines (lines : List String) : String :=
  String.join (lines.map (· ++ "\n"))

/-- A place in a text: the line counts from one, the column from zero. -/
structure Position where
  line : Nat
  column : Nat
deriving DecidableEq, Repr, Inhabited

/-- The offsets just after each line feed of a text that stands at `offset`. -/
def startsAfter (offset : Nat) : List Char → List Nat
  | [] => []
  | c :: rest =>
      if c = '\n' then (offset + 1) :: startsAfter (offset + 1) rest
      else startsAfter (offset + 1) rest

structure LineIndex where
  starts : Array Nat
deriving Repr

namespace LineIndex

def ofText (text : List Char) : LineIndex :=
  ⟨(0 :: startsAfter 0 text).toArray⟩

/-- The last line from `low` to `high` that starts at or before `offset`, or `low`. -/
def search (index : LineIndex) (offset low high : Nat) : Nat :=
  if h : low < high then
    let middle := (low + high + 1) / 2
    if index.starts.getD middle 0 ≤ offset then search index offset middle high
    else search index offset low (middle - 1)
  else low
termination_by high - low
decreasing_by all_goals omega

def position (index : LineIndex) (offset : Nat) : Position :=
  let line := index.search offset 0 (index.starts.size - 1)
  ⟨line + 1, offset - index.starts.getD line 0⟩

end LineIndex

end JavadocTags.Text
