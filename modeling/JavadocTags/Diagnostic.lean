import JavadocTags.Failure

/-!
# Diagnostics

A diagnostic is one outcome of a check at one place. Its message is a template whose holes are
filled with its arguments; arguments beyond the holes are left out, and a missing one leaves the
diagnostic without a message. A check named by a number of too many digits cannot be shown.
-/
namespace JavadocTags

/-- The outcomes of a check: the tag is missing, the tag is there, its content is not as it should
be. -/
inductive MessageKey where
  | missingTag
  | writeTag
  | tagFormat
deriving DecidableEq, Repr, Inhabited

namespace MessageKey

/-- The name by which reports refer to the outcome. -/
def name : MessageKey → String
  | missingTag => "type.missingTag"
  | writeTag => "javadoc.writeTag"
  | tagFormat => "type.tagFormat"

def message? : MessageKey → List String → Option String
  | missingTag, tag :: _ => some ("Type Javadoc comment is missing " ++ tag ++ " tag.")
  | writeTag, tag :: content :: _ => some (tag ++ "=" ++ content)
  | tagFormat, tag :: format :: _ =>
      some ("Type Javadoc tag " ++ tag ++ " must match pattern '" ++ format ++ "'.")
  | _, _ => none

end MessageKey

/-- One outcome of a check. The check is named by any value that its configuration gives. -/
structure Diagnostic where
  line : Int
  column : Int
  key : MessageKey
  args : List String
  severity : Severity
  check : Value := .string "WriteTag"
  path : String := ""
deriving Repr

namespace Diagnostic

def message (d : Diagnostic) : Except Failure String :=
  match d.key.message? d.args with
  | some text => .ok text
  | none => .error .missingArgument

def record (d : Diagnostic) : Except Failure Value := do
  let message ← d.message
  return .table [("path", .string d.path), ("line", .int d.line), ("column", .int d.column),
    ("severity", .string d.severity.name), ("key", .string d.key.name),
    ("args", .list (d.args.map .string)), ("message", .string message), ("check", d.check)]

/-- The line of a diagnostic in a text report; columns are shown from one. -/
def reportLine (d : Diagnostic) : Except Failure String := do
  let message ← d.message
  if d.check.isOverlong then throw .integerTooLong
  else
    return "[" ++ d.severity.label ++ "] " ++ d.path ++ ":" ++ toString d.line ++ ":"
      ++ toString (d.column + 1) ++ ": " ++ message ++ " [" ++ d.check.plain ++ "]"

end Diagnostic

end JavadocTags
