import JavadocTags.Value.Basic

/-!
# TOML documents

The tables of a document are put together from its sections. A section belongs to the table whose
header it is written under. While a table is open, the sections below it are its parts; a table that
is only named on the way to another one may be taken up again later, and then the parts of both are
one. A key that has a value, and a table with a header of its own, cannot be defined again.
-/
namespace JavadocTags.Toml

/-- A key with its value; the key may have several parts. -/
structure Entry where
  path : List String
  value : Value
deriving Repr

/-- The entries under one header. A header in double brackets adds an element to an array. -/
structure Section where
  isElement : Bool
  path : List String
  entries : List Entry
deriving Repr

/-- A part of a table: a value, a table or an array of tables. A table is implicit when it is only
named on the way to another one. The parts of a table keep the order in which they were written;
`dotted` parts come from keys with several parts. -/
inductive Part where
  | value (v : Value)
  | table (isImplicit : Bool) (parts : List (String × Bool × Part))
  | array (elements : List (List (String × Bool × Part)))
deriving Repr, Inhabited

/-- The parts of a table, each with its key and whether the key was dotted. -/
abbrev Parts := List (String × Bool × Part)

namespace Parts

/-- The last part with a key, and whether its key was dotted. -/
def last? (parts : Parts) (key : String) : Option (Bool × Part) :=
  parts.reverse.lookup key

/-- The key of the last part that is a table. -/
def lastTableKey? (parts : Parts) : Option String :=
  (parts.reverse.find? fun
    | (_, _, .table _ _) => true
    | _ => false).map Prod.fst

def replaceLast (key : String) (part : Part) (parts : Parts) : Parts :=
  let after := (parts.reverse.takeWhile (·.1 ≠ key)).reverse
  match (parts.reverse.dropWhile (·.1 ≠ key)) with
  | [] => parts
  | (k, dotted, _) :: before => before.reverse ++ (k, dotted, part) :: after

mutual

def add (parts : Parts) (key : String) (dotted : Bool) : Part → Option Parts
  | .value v => if (parts.last? key).isSome then none else some (parts ++ [(key, dotted, .value v)])
  | .array elements =>
      match parts.last? key with
      | none => some (parts ++ [(key, dotted, .array elements)])
      | some (_, .array earlier) => some (parts.replaceLast key (.array (earlier ++ elements)))
      | some _ => none
  | .table isImplicit inner =>
      match parts.last? key with
      | none => some (parts ++ [(key, dotted, .table isImplicit inner)])
      | some (earlierDotted, .table true earlier) =>
          if isImplicit then
            if dotted || earlierDotted || lastTableKey? parts ≠ some key then
              some (parts ++ [(key, dotted, .table isImplicit inner)])
            else (addAll earlier inner).map fun both => parts.replaceLast key (.table true both)
          else if earlierDotted then none
          else some (parts ++ [(key, dotted, .table isImplicit inner)])
      | some (_, .table false _) =>
          if isImplicit then some (parts ++ [(key, dotted, .table isImplicit inner)]) else none
      | some _ => none

def addAll (parts : Parts) : List (String × Bool × Part) → Option Parts
  | [] => some parts
  | (key, dotted, part) :: rest => do
      let parts ← add parts key dotted part
      addAll parts rest

end

mutual

/-- Adds a part to a table in which no key occurs twice: the parts of two tables with one key are
put together, and any other repetition is refused. -/
def unite (parts : Parts) (key : String) : Part → Option Parts
  | .value v => if (parts.last? key).isSome then none else some (parts ++ [(key, false, .value v)])
  | .array elements => do
      if (parts.last? key).isSome then none
      let united ← uniteElements elements
      some (parts ++ [(key, false, .array united)])
  | .table _ inner =>
      match parts.last? key with
      | none => do
          let united ← uniteAll [] inner
          some (parts ++ [(key, false, .table false united)])
      | some (_, .table _ earlier) => do
          let united ← uniteAll earlier inner
          some (parts.replaceLast key (.table false united))
      | some _ => none

def uniteAll (parts : Parts) : List (String × Bool × Part) → Option Parts
  | [] => some parts
  | (key, _, part) :: rest => do
      let parts ← unite parts key part
      uniteAll parts rest

def uniteElements : List (List (String × Bool × Part)) → Option (List Parts)
  | [] => some []
  | element :: rest => do
      let united ← uniteAll [] element
      let others ← uniteElements rest
      some (united :: others)

end

mutual

def partValue : Part → Value
  | .value v => v
  | .table _ parts => .table (entriesOf parts)
  | .array elements => .list (elementValues elements)

def entriesOf : List (String × Bool × Part) → Table
  | [] => []
  | (key, _, part) :: rest => (key, partValue part) :: entriesOf rest

def elementValues : List (List (String × Bool × Part)) → List Value
  | [] => []
  | element :: rest => .table (entriesOf element) :: elementValues rest

end

def toTable? (parts : Parts) : Option Table :=
  (uniteAll [] parts).map entriesOf

def addEntry? (parts : Parts) (entry : Entry) : Option Parts :=
  match entry.path with
  | [] => none
  | [key] => parts.add key false (.value entry.value)
  | key :: rest => parts.add key true (nestDotted rest entry.value)
where
  /-- A value below the parts of a dotted key. -/
  nestDotted : List String → Value → Part
    | [], v => .value v
    | [key], v => .table true [(key, false, .value v)]
    | key :: rest, v => .table true [(key, true, nestDotted rest v)]

def addEntries? (parts : Parts) (entries : List Entry) : Option Parts :=
  entries.foldlM addEntry? parts

end Parts

/-- Whether a path leads below another one. -/
def isBelow (outer inner : List String) : Bool :=
  outer.isPrefixOf inner && outer != inner

/-- A part below the keys of a path, the tables on the way being implicit. -/
def wrapped (part : Part) : List String → Part
  | [] => part
  | key :: rest => .table true [(key, false, wrapped part rest)]

mutual

/-- The part that the first section makes up together with the sections below it, with its key
in the table that is open at `outer`, and the sections after those. -/
def readTable? : (fuel : Nat) → (outer : List String) → (inArray : Bool) → List Section →
    Option (String × Part × List Section)
  | 0, _, _, _ => none
  | _ + 1, _, _, [] => none
  | fuel + 1, outer, inArray, s :: rest => do
      let parts ← Parts.addEntries? [] s.entries
      let (parts, rest) ← readBelow? fuel s.path parts rest
      match s.path.drop outer.length with
      | [] => some (s.path.getLastD "", .table false parts, rest)
      | [key] =>
          if s.isElement && !inArray then
            let (others, rest) ← readElements? fuel s.path rest
            some (key, .array (parts :: others), rest)
          else some (key, .table false parts, rest)
      | key :: inner =>
          let innermost : Part := if s.isElement then .array [parts] else .table false parts
          some (key, wrapped innermost inner, rest)

/-- Adds the sections below a path to the parts of its table. -/
def readBelow? : (fuel : Nat) → (path : List String) → Parts → List Section →
    Option (Parts × List Section)
  | 0, _, _, _ => none
  | _ + 1, _, parts, [] => some (parts, [])
  | fuel + 1, path, parts, s :: rest =>
      if isBelow path s.path then do
        let (key, part, rest) ← readTable? fuel path false (s :: rest)
        let parts ← parts.add key false part
        readBelow? fuel path parts rest
      else some (parts, s :: rest)

/-- The further elements of an array of tables, as long as their headers follow directly. -/
def readElements? : (fuel : Nat) → (path : List String) → List Section →
    Option (List Parts × List Section)
  | 0, _, _ => none
  | _ + 1, _, [] => some ([], [])
  | fuel + 1, path, s :: rest =>
      if s.isElement && s.path == path then do
        let (_, part, rest) ← readTable? fuel path true (s :: rest)
        let (others, rest) ← readElements? fuel path rest
        match part with
        | .table _ parts => some (parts :: others, rest)
        | _ => none
      else some ([], s :: rest)

end

def assemble? : (fuel : Nat) → Parts → List Section → Option Parts
  | 0, _, _ => none
  | _ + 1, parts, [] => some parts
  | fuel + 1, parts, s :: rest => do
      let (key, part, rest) ← readTable? (3 * (rest.length + 2)) [] false (s :: rest)
      let parts ← parts.add key false part
      assemble? fuel parts rest

/-- The table of a document with entries before its first header and then sections. -/
def document? (entries : List Entry) (sections : List Section) : Option Table := do
  let parts ← Parts.addEntries? [] entries
  let parts ← assemble? (sections.length + 1) parts sections
  parts.toTable?

end JavadocTags.Toml
