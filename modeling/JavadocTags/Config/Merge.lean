import JavadocTags.Value.Basic

/-!
# Merging configurations, and the defaults

A configuration is laid over another one table by table. Only where both have a table at a key are
the two merged; anywhere else the upper value replaces the lower one, lists included. Keys keep the
order of the lower table, and new keys follow in the order of the upper one. The lowest table holds
the values that apply unless a configuration file or the environment says otherwise.
-/
namespace JavadocTags

mutual

/-- The value that results from laying a value over another one, if there is another. -/
def Value.over (lower : Option Value) : Value → Value
  | .table upper =>
      match lower with
      | some (.table entries) => .table (Table.mergeEntries entries upper)
      | _ => .table upper
  | value => value

def Table.mergeEntries (lower : Table) : List (String × Value) → Table
  | [] => lower
  | (key, value) :: rest =>
      Table.mergeEntries (lower.set key (value.over (lower.get? key))) rest

end

/-- Lays a table over another one. -/
def Table.merge (lower upper : Table) : Table :=
  lower.mergeEntries upper

end JavadocTags

namespace JavadocTags.Config

def fileName : String := ".tagcheck.toml"

/-- The beginning of the name of an environment variable that sets a value. -/
def variableMark : String := "TAGCHECK_"

def defaultScan : Table :=
  [("paths", .list [.string "."]), ("include", .list [.string "*.java"]), ("exclude", .list [])]

def defaultOutput : Table :=
  [("format", .string "text"), ("show_ignored", .bool false)]

def defaults : Table :=
  [("scan", .table defaultScan), ("output", .table defaultOutput), ("checks", .list [])]

end JavadocTags.Config
