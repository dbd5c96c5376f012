import JavadocTags.Value.Basic

/-!
# Writing JSON

Every character outside printable ASCII is escaped, those beyond U+FFFF as a surrogate pair. Dates
and times have no JSON form, so a value that holds one cannot be written.
-/
namespace JavadocTags.Json

/-- An escape of one UTF-16 unit. -/
def escapedUnit (n : Nat) : List Char :=
  '\\' :: 'u' :: Number.hexPadded 4 n

/-- A character inside a JSON string. -/
def stringChar (c : Char) : List Char :=
  let n := c.toNat
  if c = '"' ∨ c = '\\' then ['\\', c]
  else if c = '\n' then ['\\', 'n']
  else if c = '\r' then ['\\', 'r']
  else if c = '\t' then ['\\', 't']
  else if n = 0x0C then ['\\', 'f']
  else if n = 0x08 then ['\\', 'b']
  else if 0x20 ≤ n ∧ n < 0x7F then [c]
  else if n < 0x10000 then escapedUnit n
  else
    escapedUnit (0xD800 + (n - 0x10000) / 0x400) ++ escapedUnit (0xDC00 + (n - 0x10000) % 0x400)

def writeString (s : String) : String :=
  String.ofList ('"' :: s.toList.flatMap stringChar ++ ['"'])

/-- A floating point number; the special ones are written as words. -/
def writeFloat (x : Number.Binary64) : String :=
  match x with
  | .nan => "NaN"
  | .infinite negative => if negative then "-Infinity" else "Infinity"
  | .finite .. => x.toText

/-- How the parts of a list or object are set apart. -/
structure Layout where
  /-- What stands before the first part at a depth. -/
  opening : Nat → String
  /-- What stands between two parts at a depth. -/
  separator : Nat → String
  /-- What stands after the last part, at the depth of the whole. -/
  closing : Nat → String
  /-- What stands between a key and its value. -/
  colon : String

namespace Layout

/-- A line break and an indentation of two spaces for each level. -/
def lineBreak (depth : Nat) : String :=
  String.ofList ('\n' :: List.replicate (2 * depth) ' ')

/-- Each part on a line of its own. -/
def indented : Layout :=
  ⟨lineBreak, fun depth => "," ++ lineBreak depth, lineBreak, ": "⟩

/-- Everything on one line. -/
def compact : Layout :=
  ⟨fun _ => "", fun _ => ",", fun _ => "", ":"⟩

end Layout

mutual

/-- The JSON text of a value at a depth of nesting. -/
def writeAt? (layout : Layout) (depth : Nat) : Value → Option String
  | .null => some "null"
  | .bool b => some (if b then "true" else "false")
  | .int n => some (toString n)
  | .float x => some (writeFloat x)
  | .string s => some (writeString s)
  | .date _ => none
  | .time _ => none
  | .dateTime _ => none
  | .list [] => some "[]"
  | .list (item :: rest) => do
      let parts ← writeItems? layout (depth + 1) (item :: rest)
      some ("[" ++ layout.opening (depth + 1)
        ++ String.intercalate (layout.separator (depth + 1)) parts ++ layout.closing depth ++ "]")
  | .table [] => some "\x7b\x7d"
  | .table (entry :: rest) => do
      let parts ← writeMembers? layout (depth + 1) (entry :: rest)
      some ("\x7b" ++ layout.opening (depth + 1)
        ++ String.intercalate (layout.separator (depth + 1)) parts ++ layout.closing depth
        ++ "\x7d")

def writeItems? (layout : Layout) (depth : Nat) : List Value → Option (List String)
  | [] => some []
  | item :: rest => do
      let text ← writeAt? layout depth item
      let texts ← writeItems? layout depth rest
      some (text :: texts)

def writeMembers? (layout : Layout) (depth : Nat) :
    List (String × Value) → Option (List String)
  | [] => some []
  | (key, value) :: rest => do
      let text ← writeAt? layout depth value
      let texts ← writeMembers? layout depth rest
      some ((writeString key ++ layout.colon ++ text) :: texts)

end

def write? (layout : Layout) (value : Value) : Option String :=
  writeAt? layout 0 value

end JavadocTags.Json
