import JavadocTags.Failure
import JavadocTags.TagPattern
import JavadocTags.Unicode.FullCase

/-!
# Specifications of checks

A check looks for one tag, in a given form, at declarations of some kinds. `SpecInput` holds what a
configuration says about it, as it stands there; `TagSpec.ofInput` validates and compiles that. The
name of a tag and its pattern are one, so a specification has either both or none.
-/
namespace JavadocTags

structure Tag where
  name : String
  pattern : Pattern
deriving DecidableEq, Repr

/-- A check that can be run. Without a tag it reports nothing. -/
structure TagSpec where
  tag : Option Tag
  format : Option Pattern
  tagSeverity : Severity
  severity : Severity
  tokens : List DeclarationKind
  id : Value
deriving Repr

/-- What a configuration says about a check. -/
structure SpecInput where
  tag : Value := .null
  format : Value := .null
  tagSeverity : Value := .string "info"
  severity : Value := .string "error"
  tokens : Value := .null
  literal : Value := .bool false
  id : Value := .string "WriteTag"
deriving Repr

/-- Reads a severity from its name, in any case and with blanks around it. -/
def Severity.ofValue (value : Value) : Except Failure Severity :=
  let text := Unicode.lowerText (Text.trim value.plain.toList)
  match Severity.ofName? (String.ofList text) with
  | some severity => .ok severity
  | none => refuse (.unknownSeverity value)

/-- Reads a kind from its name or from that of its token, in any case and with blanks around. -/
def DeclarationKind.ofValue (value : Value) : Except Failure DeclarationKind :=
  let text := Text.trim value.plain.toList
  let found :=
    (DeclarationKind.ofTokenName? (String.ofList (Unicode.upperText text))).or
      (DeclarationKind.ofName? (String.ofList (Unicode.lowerText text)))
  match found with
  | some kind => .ok kind
  | none => refuse (.unknownToken value)

namespace TagPattern
variable [Unicode.CharacterNames]

def compile (tag : String) (literal : Bool) : Except Failure Pattern :=
  if tag.isEmpty then refuse .emptyTag
  else
    let source := sourceOf tag literal
    (Pattern.compile source).mapError (Failure.ofPattern (.badTagPattern tag source))

def compileFormat (format : String) : Except Failure Pattern :=
  (Pattern.compile format).mapError (Failure.ofPattern (.badTagFormat format))

end TagPattern

namespace TagSpec
variable [Unicode.CharacterNames]

def readTag (input : SpecInput) : Except Failure (Option Tag) :=
  match input.tag, input.literal with
  | .string name, .bool literal => do
      let pattern ← TagPattern.compile name literal
      return some ⟨name, pattern⟩
  | .null, .bool _ => .ok none
  | .string _, got => refuse (.literalNotBool input.id got)
  | .null, got => refuse (.literalNotBool input.id got)
  | got, _ => refuse (.tagNotText input.id got)

def readFormat (input : SpecInput) : Except Failure (Option Pattern) :=
  match input.format with
  | .string format => do
      let pattern ← TagPattern.compileFormat format
      return some pattern
  | .null => .ok none
  | got => refuse (.formatNotText input.id got)

/-- The members of a value that has members: the items of a list, the characters of a text, the
keys of a table. -/
def members : Value → Except Failure (List Value)
  | .list items => .ok items
  | .string s => .ok (s.toList.map fun c => .string (String.singleton c))
  | .table entries => .ok (entries.map fun entry => .string entry.1)
  | _ => .error .tokensNotList

/-- The kinds that a check runs on, in the order of `DeclarationKind.all`. -/
def readTokens (input : SpecInput) : Except Failure (List DeclarationKind) :=
  match input.tokens with
  | .null => .ok DeclarationKind.types
  | tokens => do
      let kinds ← (← members tokens).mapM DeclarationKind.ofValue
      if kinds.isEmpty then refuse (.noTokens input.id)
      else return DeclarationKind.all.filter (kinds.contains ·)

/-- Validates and compiles a check. The tag is looked at first, then the format, the kinds and the
severities. -/
def ofInput (input : SpecInput) : Except Failure TagSpec := do
  let tag ← readTag input
  let format ← readFormat input
  let tokens ← readTokens input
  let tagSeverity ← Severity.ofValue input.tagSeverity
  let severity ← Severity.ofValue input.severity
  return { tag, format, tagSeverity, severity, tokens, id := input.id }

/-- The kinds of a table, where a text is a list of names between commas. -/
def splitTokens : Value → Value
  | .string s => .list ((Text.commaItems s.toList).map fun item => .string (String.ofList item))
  | value => value

def inputOfTable (table : Table) : SpecInput :=
  let get (key : String) (default : Value) : Value := (table.get? key).getD default
  { tag := get "tag" .null
    format := get "tag_format" .null
    tagSeverity := get "tag_severity" (.string "info")
    severity := get "severity" (.string "error")
    tokens := splitTokens (get "tokens" .null)
    literal := get "literal" (.bool false)
    id := get "id" (.string "WriteTag") }

def ofTable (table : Table) : Except Failure TagSpec :=
  ofInput (inputOfTable table)

/-- Whether the check has a tag to look for. -/
def isConfigured (spec : TagSpec) : Bool :=
  spec.tag.isSome

end TagSpec

end JavadocTags
