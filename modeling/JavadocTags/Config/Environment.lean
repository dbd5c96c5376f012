import JavadocTags.Config.Merge
import JavadocTags.Failure
import JavadocTags.Json.Reader
import JavadocTags.Unicode.Printable
import JavadocTags.Unicode.FullCase

/-!
# Overrides from the environment

A variable `TAGCHECK_SECTION_KEY` sets the key of a section, both in lowercase; the section ends at
the first underscore. Its value is a truth value, a JSON list or object, or else a text. A JSON text
with a whole number of too many digits breaks the overriding off.
-/
namespace JavadocTags.Config

def logPart : String := "tagcheck.config"

/-- The section and the key that a variable sets. -/
structure Target where
  table : String
  key : String
deriving DecidableEq, Repr

/-- The target of a variable, if its name has the form for one. -/
def target? (name : String) : Option Target :=
  if variableMark.toList.isPrefixOf name.toList then
    let rest := Unicode.lowerText (name.toList.drop variableMark.length)
    let table := rest.takeWhile (· ≠ '_')
    let key := (rest.dropWhile (· ≠ '_')).drop 1
    if table.isEmpty || key.isEmpty then none
    else some ⟨String.ofList table, String.ofList key⟩
  else none

/-- Whether a text has the form of a JSON list or object. -/
def looksLikeJson (text : List Char) : Bool :=
  text.head? == some '[' || text.head? == some '{'

/-- The value of a variable, and whether it looked like JSON and was not. -/
def decode (raw : String) : Except Failure (Value × Bool) :=
  let lower := String.ofList (Unicode.lowerText raw.toList)
  if lower = "true" then .ok (.bool true, false)
  else if lower = "false" then .ok (.bool false, false)
  else if looksLikeJson raw.toList then
    match Json.read raw.toList with
    | .ok value => .ok (value, false)
    | .error .malformed => .ok (.string raw, true)
    | .error .integerTooLong => .error .integerTooLong
  else .ok (.string raw, false)

def variableValue (raw : String) : Except Failure Value :=
  (decode raw).map Prod.fst

def undecodedRecord (raw : String) : LogRecord :=
  ⟨.warning, logPart, "Could not decode " ++ String.ofList (Text.quoted raw.toList)
    ++ " as JSON; using it as a string"⟩

/-- The warning about a variable whose section is not a table. -/
def ignoredRecord (name table : String) : LogRecord :=
  ⟨.warning, logPart, "Ignoring " ++ name ++ ": [" ++ table ++ "] is not a table"⟩

/-- The note of a variable that sets a value. -/
def overrideRecord (name : String) : LogRecord :=
  ⟨.debug, logPart, "Config override from " ++ name⟩

/-- Sets the key of a section, unless the section is something other than a table. A section that
is missing is added. -/
def setIn (config : Table) (target : Target) (value : Value) : Table :=
  match config.get? target.table with
  | none => config.set target.table (.table [(target.key, value)])
  | some (.table entries) => config.set target.table (.table (Table.set target.key value entries))
  | some _ => config

def accepts (config : Table) (target : Target) : Bool :=
  match config.get? target.table with
  | none => true
  | some (.table _) => true
  | some _ => false

/-- Applies one variable. Only a value that can be set is decoded. -/
def applyVariable (config : Table) (name raw : String) : Except Failure Table :=
  match target? name with
  | none => .ok config
  | some target =>
      if accepts config target then (variableValue raw).map (setIn config target) else .ok config

def variableRecords (config : Table) (name raw : String) : List LogRecord :=
  match target? name with
  | none => []
  | some target =>
      if accepts config target then
        match decode raw with
        | .ok (_, undecoded) =>
            (if undecoded then [undecodedRecord raw] else []) ++ [overrideRecord name]
        | .error _ => []
      else [ignoredRecord name target.table]

def applyEnvironment (config : Table) (environment : List (String × String)) :
    Except Failure Table :=
  environment.foldlM (fun config v => applyVariable config v.1 v.2) config

def environmentRecords (config : Table) : List (String × String) → List LogRecord
  | [] => []
  | (name, raw) :: rest =>
      variableRecords config name raw ++
        match applyVariable config name raw with
        | .ok next => environmentRecords next rest
        | .error _ => []

end JavadocTags.Config
