import JavadocTags.Check.Spec
import JavadocTags.Config.Merge

/-!
# Settings

What a configuration says, validated: the checks to run, the files to scan and the form of the
output. Each of the three is read on its own.
-/
namespace JavadocTags.Config

def defaultCheckName (count index : Nat) : String :=
  if 1 < count then "WriteTag#" ++ toString (index + 1) else "WriteTag"

/-- The check that a value describes; `index` is its place among `count` checks. -/
def checkOfValue [Unicode.CharacterNames] (count index : Nat) : Value → Except Failure TagSpec
  | .table entries =>
      let named :=
        if Table.has entries "id" then entries
        else Table.set "id" (.string (defaultCheckName count index)) entries
      TagSpec.ofTable named
  | _ => refuse (.checkNotTable index)

/-- The checks of a configuration. -/
def checks [Unicode.CharacterNames] (config : Table) : Except Failure (List TagSpec) :=
  match (config.get? "checks").getD (.list []) with
  | .list items =>
      items.zipIdx.mapM fun (item, index) => checkOfValue items.length index item
  | _ => refuse .checksNotList

/-- A section of a configuration; a missing one is empty. -/
def sectionTable (config : Table) (name : String) : Except Failure Table :=
  match (config.get? name).getD (.table []) with
  | .table entries => .ok entries
  | _ => refuse (.sectionNotTable name)

/-- The texts of a list that holds nothing else. -/
def texts? : List Value → Option (List String)
  | [] => some []
  | .string s :: rest => (texts? rest).map (s :: ·)
  | _ => none

/-- A list of texts, which may be written as one text with commas. -/
def textList (name : String) (value : Value) : Except Failure (List String) :=
  match value with
  | .string s => .ok ((Text.commaItems s.toList).map String.ofList)
  | .list items =>
      match texts? items with
      | some texts => .ok texts
      | none => refuse (.notTextList name value)
  | _ => refuse (.notTextList name value)

structure ScanSettings where
  paths : List String
  includes : List String
  excludes : List String
deriving DecidableEq, Repr

/-- A value of a section, or its default. -/
def valueOr (entries defaults : Table) (key : String) : Value :=
  (entries.get? key).getD ((defaults.get? key).getD .null)

def scanSettings (config : Table) : Except Failure ScanSettings := do
  let scan ← sectionTable config "scan"
  let paths ← textList "scan.paths" (valueOr scan defaultScan "paths")
  let includes ← textList "scan.include" (valueOr scan defaultScan "include")
  let excludes ← textList "scan.exclude" (valueOr scan defaultScan "exclude")
  return { paths, includes, excludes }

inductive ReportFormat where
  | text
  | json
deriving DecidableEq, Repr

namespace ReportFormat

def name : ReportFormat → String
  | text => "text"
  | json => "json"

def ofName? (s : String) : Option ReportFormat :=
  [text, json].find? (·.name == s)

end ReportFormat

structure OutputSettings where
  format : ReportFormat
  showIgnored : Bool
deriving DecidableEq, Repr

def reportFormat (value : Value) : Except Failure ReportFormat :=
  match value with
  | .string s =>
      match ReportFormat.ofName? s with
      | some format => .ok format
      | none => refuse (.unknownOutputFormat value)
  | _ => refuse (.unknownOutputFormat value)

def truth (name : String) : Value → Except Failure Bool
  | .bool b => .ok b
  | value => refuse (.notBool name value)

def outputSettings (config : Table) : Except Failure OutputSettings := do
  let output ← sectionTable config "output"
  let format ← reportFormat (valueOr output defaultOutput "format")
  let showIgnored ← truth "output.show_ignored" (valueOr output defaultOutput "show_ignored")
  return { format, showIgnored }

end JavadocTags.Config
