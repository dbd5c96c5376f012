import JavadocTags.Unicode.Printable

/-!
# Faults of patterns

What can be wrong with the text of a pattern, and how it is said.
-/
namespace JavadocTags.Pattern

inductive Fault where
  | escapeAtEnd
  | badEscape (escape : List Char)
  | incompleteEscape (escape : List Char)
  | octalOutOfRange (escape : List Char)
  | missingOpening
  | missingName (what : String)
  | unterminatedName (terminator : Char)
  | undefinedCharacterName (name : List Char)
  | badGroupName (name : List Char)
  | unknownGroupName (name : List Char)
  | redefinedGroupName (name : List Char) (index earlier : Nat)
  | openGroupReference
  | lookbehindGroupReference
  | invalidGroupReference (index : Nat)
  | zeroGroupNumber
  | unterminatedSet
  | badRange (low high : List Char)
  | leastAboveMost
  | nothingToRepeat
  | multipleRepeat
  | unexpectedEnd
  | unknownExtension (extension : List Char)
  | unterminatedComment
  | unterminatedGroup
  | tooManyBranches
  | unbalancedParenthesis
  | misplacedFlags
  | localeFlag
  | incompatibleClassFlags
  | unknownFlag
  | missingAfterFlags
  | missingFlag
  | missingColon
  | globalFlagOn
  | globalFlagOff
  | classFlagOff
  | flagOnAndOff
  | variableLookbehind
  | longLookbehind
  | templateRepetition (name : String)
deriving DecidableEq, Repr

namespace Fault

/-- Text with quotes as a message shows it. -/
def shown (text : List Char) : String :=
  String.ofList (Text.quoted text)

def message : Fault → String
  | escapeAtEnd => "bad escape (end of pattern)"
  | badEscape escape => "bad escape " ++ String.ofList escape
  | incompleteEscape escape => "incomplete escape " ++ String.ofList escape
  | octalOutOfRange escape =>
      "octal escape value " ++ String.ofList escape ++ " outside of range 0-0o377"
  | missingOpening => "missing \x7b"
  | missingName what => "missing " ++ what
  | unterminatedName terminator =>
      "missing " ++ String.singleton terminator ++ ", unterminated name"
  | undefinedCharacterName name => "undefined character name " ++ shown name
  | badGroupName name => "bad character in group name " ++ shown name
  | unknownGroupName name => "unknown group name " ++ shown name
  | redefinedGroupName name index earlier =>
      "redefinition of group name " ++ shown name ++ " as group " ++ toString index
        ++ "; was group " ++ toString earlier
  | openGroupReference => "cannot refer to an open group"
  | lookbehindGroupReference =>
      "cannot refer to group defined in the same lookbehind subpattern"
  | invalidGroupReference index => "invalid group reference " ++ toString index
  | zeroGroupNumber => "bad group number"
  | unterminatedSet => "unterminated character set"
  | badRange low high =>
      "bad character range " ++ String.ofList low ++ "-" ++ String.ofList high
  | leastAboveMost => "min repeat greater than max repeat"
  | nothingToRepeat => "nothing to repeat"
  | multipleRepeat => "multiple repeat"
  | unexpectedEnd => "unexpected end of pattern"
  | unknownExtension extension => "unknown extension " ++ String.ofList extension
  | unterminatedComment => "missing ), unterminated comment"
  | unterminatedGroup => "missing ), unterminated subpattern"
  | tooManyBranches => "conditional backref with more than two branches"
  | unbalancedParenthesis => "unbalanced parenthesis"
  | misplacedFlags => "global flags not at the start of the expression"
  | localeFlag => "bad inline flags: cannot use 'L' flag with a str pattern"
  | incompatibleClassFlags =>
      "bad inline flags: flags 'a', 'u' and 'L' are incompatible"
  | unknownFlag => "unknown flag"
  | missingAfterFlags => "missing -, : or )"
  | missingFlag => "missing flag"
  | missingColon => "missing :"
  | globalFlagOn => "bad inline flags: cannot turn on global flag"
  | globalFlagOff => "bad inline flags: cannot turn off global flag"
  | classFlagOff => "bad inline flags: cannot turn off flags 'a', 'u' and 'L'"
  | flagOnAndOff => "bad inline flags: flag turned on and off"
  | variableLookbehind => "look-behind requires fixed-width pattern"
  | longLookbehind => "looks too much behind"
  | templateRepetition name => "internal: unsupported template operator " ++ name

end Fault

/-- Why a text is no pattern: a fault, with its place unless it concerns the whole, or one of two
limits that are reported apart from faults. -/
inductive CompileError where
  | fault (cause : Fault) (place : Option Nat)
  | repetitionTooLarge
  | asciiAndUnicode
deriving DecidableEq, Repr

/-- The wording of a fault at a place of a pattern; the line and column are told as well when the
pattern has several lines. -/
def faultMessage (pattern : List Char) (cause : Fault) : Option Nat → String
  | none => cause.message
  | some place =>
      let before := pattern.take place
      let located := cause.message ++ " at position " ++ toString place
      if pattern.contains '\n' then
        let line := before.count '\n' + 1
        let column := (before.reverse.takeWhile (· ≠ '\n')).length + 1
        located ++ " (line " ++ toString line ++ ", column " ++ toString column ++ ")"
      else located

end JavadocTags.Pattern
