import JavadocTags.Declaration
import JavadocTags.Files.Tree
import JavadocTags.Pattern.Fault
import JavadocTags.Severity
import JavadocTags.Value.Display

/-!
# Failures and log records

A configuration that cannot be used is refused with a cause, which has a wording. If the wording
shows a whole number of too many digits, this breaks the refusal off. The other ways in which a
computation can fail are no fault of the configuration's form and carry no message. What a run tells
about its course stands in log records; those for debugging are shown only when that is asked for.
-/
namespace JavadocTags

/-- Why a configuration is refused. A check is named by its identifier. -/
inductive ConfigFault where
  | emptyTag
  | badTagPattern (tag pattern : String) (cause : Pattern.Fault) (place : Option Nat)
  | badTagFormat (format : String) (cause : Pattern.Fault) (place : Option Nat)
  | tagNotText (check got : Value)
  | literalNotBool (check got : Value)
  | formatNotText (check got : Value)
  | noTokens (check : Value)
  | unknownSeverity (got : Value)
  | unknownToken (got : Value)
  | checksNotList
  | checkNotTable (index : Nat)
  | sectionNotTable (name : String)
  | notTextList (name : String) (got : Value)
  | unknownOutputFormat (got : Value)
  | notBool (name : String) (got : Value)
  | badToml
deriving Repr

namespace ConfigFault

/-- The choices that a message lists. -/
def choices (names : List String) : String :=
  " (expected one of: " ++ commaSeparated names ++ ")"

def message : ConfigFault → String
  | emptyTag => "Tag name must not be empty"
  | badTagPattern tag pattern cause place =>
      "Invalid tag pattern '" ++ tag ++ "': " ++ Pattern.faultMessage pattern.toList cause place
  | badTagFormat format cause place =>
      "Invalid tag format '" ++ format ++ "': " ++ Pattern.faultMessage format.toList cause place
  | tagNotText check got => check.plain ++ ": tag must be a string, got " ++ got.quoted
  | literalNotBool check got => check.plain ++ ": literal must be true or false, got " ++ got.quoted
  | formatNotText check got => check.plain ++ ": tag_format must be a string, got " ++ got.quoted
  | noTokens check => check.plain ++ ": tokens must not be empty"
  | unknownSeverity got =>
      "Unknown severity '" ++ got.plain ++ "'" ++ choices (Severity.all.map (·.name))
  | unknownToken got =>
      "Unknown token '" ++ got.plain ++ "'" ++ choices (DeclarationKind.all.map (·.name))
  | checksNotList => "'checks' must be an array of tables ([[checks]])"
  | checkNotTable index => "checks[" ++ toString index ++ "] must be a table"
  | sectionNotTable name => "'" ++ name ++ "' must be a table"
  | notTextList name got => name ++ " must be a list of strings, got " ++ got.quoted
  | unknownOutputFormat got => "output.format must be 'text' or 'json', got " ++ got.quoted
  | notBool name got => name ++ " must be true or false, got " ++ got.quoted
  | badToml => "Invalid TOML"

/-- The values that the wording of a refusal shows. -/
def shown : ConfigFault → List Value
  | tagNotText check got => [check, got]
  | literalNotBool check got => [check, got]
  | formatNotText check got => [check, got]
  | noTokens check => [check]
  | unknownSeverity got => [got]
  | unknownToken got => [got]
  | notTextList _ got => [got]
  | unknownOutputFormat got => [got]
  | notBool _ got => [got]
  | _ => []

/-- Whether the wording of a refusal shows a number that is too long. -/
def isOverlong (cause : ConfigFault) : Bool :=
  cause.shown.any Value.isOverlong

end ConfigFault

inductive Failure where
  | refused (cause : ConfigFault)
  | tokensNotList
  | repetitionTooLarge
  | asciiAndUnicode
  | integerTooLong
  | missingArgument
  | noJsonForm
  | noTomlForm
  | notUtf8
  | unwritable (fault : FileFault)
deriving Repr

namespace Failure

/-- The failure of compiling a pattern, where `cause` says how a fault of it is refused. -/
def ofPattern (cause : Pattern.Fault → Option Nat → ConfigFault) :
    Pattern.CompileError → Failure
  | .fault fault place => refused (cause fault place)
  | .repetitionTooLarge => repetitionTooLarge
  | .asciiAndUnicode => asciiAndUnicode

def message : Failure → String
  | refused cause => cause.message
  | tokensNotList => "tokens are not a list"
  | repetitionTooLarge => "a repetition count is too large"
  | asciiAndUnicode => "a pattern cannot be both ASCII and Unicode"
  | integerTooLong => "a whole number has too many digits"
  | missingArgument => "a message lacks an argument"
  | noJsonForm => "a value has no JSON form"
  | noTomlForm => "a value has no TOML form"
  | notUtf8 => "a file is not UTF-8"
  | unwritable fault => "a file cannot be written: " ++ fault.text

end Failure

def refuse {α : Type} (cause : ConfigFault) : Except Failure α :=
  if cause.isOverlong then .error .integerTooLong else .error (.refused cause)

inductive LogLevel where
  | debug
  | warning
deriving DecidableEq, Repr

structure LogRecord where
  level : LogLevel
  part : String
  text : String
deriving DecidableEq, Repr

namespace LogRecord

def line (record : LogRecord) : String :=
  (match record.level with
    | .debug => "DEBUG "
    | .warning => "WARNING ") ++ record.part ++ ": " ++ record.text

/-- The lines of the records that are shown. -/
def shownLines (verbose : Bool) (records : List LogRecord) : List String :=
  (records.filter fun record => verbose || record.level = .warning).map line

end LogRecord

end JavadocTags
