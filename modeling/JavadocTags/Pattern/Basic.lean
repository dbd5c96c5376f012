import JavadocTags.Pattern.Matcher
import JavadocTags.Pattern.Reader

/-!
# Compiled patterns

A pattern is compiled by reading its text and checking that every look-behind has a fixed width.
-/
namespace JavadocTags.Pattern

/-- The greatest width of a look-behind. -/
def lookbehindLimit : Nat := 4294967295

def Mode.name : Mode → String
  | greedy => "MAX_REPEAT"
  | lazy => "MIN_REPEAT"
  | possessive => "POSSESSIVE_REPEAT"

/-- The first fault, in reading order, that concerns the pattern as a whole. -/
def Node.fault? (flags : Flags) : Node → Option Fault
  | .seq p q => (p.fault? flags).or (q.fault? flags)
  | .alt p q => (p.fault? flags).or (q.fault? flags)
  | .group _ on off body => body.fault? (flags.within on off)
  | .atomic body => body.fault? flags
  | .repetition mode _ _ body =>
      if flags.template then some (.templateRepetition mode.name) else body.fault? flags
  | .conditional _ matched unmatched => (matched.fault? flags).or (unmatched.fault? flags)
  | .lookahead _ body => body.fault? flags
  | .lookbehind _ width body =>
      if lookbehindLimit < width.least then some .longLookbehind
      else if width.least ≠ width.most then some .variableLookbehind
      else body.fault? flags
  | _ => none

end JavadocTags.Pattern

namespace JavadocTags

/-- A compiled pattern: its text, the options it sets for the whole, the number of its groups and
its tree. -/
structure Pattern where
  source : String
  flags : Pattern.Flags
  groups : Nat
  node : Pattern.Node
deriving DecidableEq, Repr

namespace Pattern

def compile [Unicode.CharacterNames] (source : String) : Except CompileError Pattern := do
  let state ← readPattern source.toList
  let node := state.frame.body
  match node.fault? state.flags with
  | some cause => throw (.fault cause none)
  | none => return ⟨source, state.flags, state.groups - 1, node⟩

def search? (p : Pattern) (text : List Char) : Option Match :=
  p.node.search? p.flags p.groups text.toArray

def occursIn (p : Pattern) (text : List Char) : Bool :=
  (p.search? text).isSome

/-- Where a group of a match begins; the group zero is the whole match. -/
def Match.groupStart? (m : Match) (index : Nat) : Option Nat :=
  if index = 0 then some m.start else ((m.marks.get index).span?).map Prod.fst

end Pattern

end JavadocTags
