import JavadocTags.Value.Display

/-!
# Writing TOML

A table is written with its plain values first and then its sub-tables and arrays of tables, each
below a header. A header with nothing but further headers below it is left out.
-/
namespace JavadocTags.Toml

def stringChar (c : Char) : List Char :=
  let n := c.toNat
  if c = '"' ∨ c = '\\' then ['\\', c]
  else if n = 0x08 then ['\\', 'b']
  else if c = '\t' then ['\\', 't']
  else if c = '\n' then ['\\', 'n']
  else if n = 0x0C then ['\\', 'f']
  else if c = '\r' then ['\\', 'r']
  else if n < 0x20 ∨ n = 0x7F then '\\' :: 'u' :: Number.hexPadded 4 n
  else [c]

def writeString (s : String) : String :=
  String.ofList ('"' :: s.toList.flatMap stringChar ++ ['"'])

def writeKey (key : String) : String :=
  if !key.isEmpty && key.toList.all (fun c => c.isAlphanum || c == '-' || c == '_') then key
  else writeString key

def writePath (path : List String) : String :=
  String.intercalate "." (path.map writeKey)

/-- A date and time, universal time being marked by a letter. -/
def writeDateTime (t : DateTime) : String :=
  if t.offset = some 0 then { t with offset := none }.iso ++ "Z" else t.iso

mutual

def writeInline : Value → String
  | .null => "null"
  | .bool b => if b then "true" else "false"
  | .int n => toString n
  | .float x => x.toText
  | .string s => writeString s
  | .date d => d.iso
  | .time t => t.iso
  | .dateTime t => writeDateTime t
  | .list items => "[" ++ commaSeparated (writeItems items) ++ "]"
  | .table entries => "\x7b" ++ commaSeparated (writeEntries entries) ++ "\x7d"

def writeItems : List Value → List String
  | [] => []
  | item :: rest => writeInline item :: writeItems rest

def writeEntries : List (String × Value) → List String
  | [] => []
  | (key, value) :: rest => (writeKey key ++ " = " ++ writeInline value) :: writeEntries rest

end

def isTable : Value → Bool
  | .table _ => true
  | _ => false

/-- Whether a value is written below headers: a table, or a list of at least one table and nothing
else. -/
def hasHeader : Value → Bool
  | .table _ => true
  | .list items => !items.isEmpty && items.all isTable
  | _ => false

def plainLines (entries : Table) : List String :=
  (entries.filter fun entry => !hasHeader entry.2).map fun (key, value) =>
    writeKey key ++ " = " ++ writeInline value

/-- The lines of a part, whose first line is a header, below the lines before it. A blank line
sets the two apart unless there are none before or `close` holds. -/
def below (close : Bool) (before part : List String) : List String :=
  if part.isEmpty then before
  else if before.isEmpty || close then before ++ part
  else before ++ "" :: part

mutual

def writePart (path : List String) : Value → List String
  | .table entries => writeTable path entries
  | .list items => writeElements path items
  | _ => []

def writeTable (path : List String) (entries : List (String × Value)) : List String :=
  let plain := plainLines entries
  if plain.isEmpty && !entries.isEmpty then writeParts path false [] entries
  else writeParts path plain.isEmpty ([("[" ++ writePath path ++ "]")] ++ plain) entries

def writeElements (path : List String) : List Value → List String
  | [] => []
  | .table entries :: rest =>
      let plain := plainLines entries
      let element :=
        writeParts path plain.isEmpty ([("[[" ++ writePath path ++ "]]")] ++ plain) entries
      below false element (writeElements path rest)
  | _ :: rest => writeElements path rest

/-- The lines of the parts that have headers, below some lines. `close` tells whether the first of
them follows without a blank line. -/
def writeParts (path : List String) (close : Bool) (before : List String) :
    List (String × Value) → List String
  | [] => before
  | (key, value) :: rest =>
      if hasHeader value then
        writeParts path false (below close before (writePart (path ++ [key]) value)) rest
      else writeParts path close before rest

end

def writeLines (config : Table) : List String :=
  writeParts [] false (plainLines config) config

mutual

def holdsNull : Value → Bool
  | .null => true
  | .list items => itemsHoldNull items
  | .table entries => entriesHoldNull entries
  | _ => false

def itemsHoldNull : List Value → Bool
  | [] => false
  | item :: rest => holdsNull item || itemsHoldNull rest

def entriesHoldNull : List (String × Value) → Bool
  | [] => false
  | (_, value) :: rest => holdsNull value || entriesHoldNull rest

end

/-- The TOML text of a configuration. A null has no TOML form. -/
def write? (config : Table) : Option String :=
  if entriesHoldNull config then none
  else some (String.join ((writeLines config).map (· ++ "\n")))

end JavadocTags.Toml
