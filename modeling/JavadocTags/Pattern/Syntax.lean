/-!
# Patterns

The syntax tree of a regular expression. A sequence and an alternation have two parts each, so that
functions on the tree recurse on its structure alone. Code points are numbers, since a pattern may
name one that no text contains.
-/
namespace JavadocTags.Pattern

structure Flags where
  ignoreCase : Bool := false
  multiline : Bool := false
  dotAll : Bool := false
  verbose : Bool := false
  ascii : Bool := false
  unicode : Bool := false
  template : Bool := false
deriving DecidableEq, Repr, Inhabited

namespace Flags

def union (a b : Flags) : Flags :=
  { ignoreCase := a.ignoreCase || b.ignoreCase
    multiline := a.multiline || b.multiline
    dotAll := a.dotAll || b.dotAll
    verbose := a.verbose || b.verbose
    ascii := a.ascii || b.ascii
    unicode := a.unicode || b.unicode
    template := a.template || b.template }

def isEmpty (a : Flags) : Bool :=
  a == {}

def meets (a b : Flags) : Bool :=
  a.ignoreCase && b.ignoreCase || a.multiline && b.multiline || a.dotAll && b.dotAll
    || a.verbose && b.verbose || a.ascii && b.ascii || a.unicode && b.unicode
    || a.template && b.template

/-- The options inside a group that turns some on and others off. The two options for the meaning
of the character classes replace each other. -/
def within (outer on off : Flags) : Flags :=
  let outer := if on.ascii || on.unicode then { outer with ascii := false, unicode := false }
    else outer
  let all := outer.union on
  { ignoreCase := all.ignoreCase && !off.ignoreCase
    multiline := all.multiline && !off.multiline
    dotAll := all.dotAll && !off.dotAll
    verbose := all.verbose && !off.verbose
    ascii := all.ascii && !off.ascii
    unicode := all.unicode && !off.unicode
    template := all.template && !off.template }

end Flags

inductive Category where
  | digit
  | space
  | word
deriving DecidableEq, Repr

inductive SetItem where
  | code (n : Nat)
  | range (lo hi : Nat)
  | category (negated : Bool) (c : Category)
deriving DecidableEq, Repr

/-- A condition on a place in the text. -/
inductive Anchor where
  | lineStart
  | textStart
  | lineEnd
  | textEnd
  | boundary
  | noBoundary
deriving DecidableEq, Repr

/-- The order in which the numbers of repetitions are tried. A possessive repetition tries the
greatest number only. -/
inductive Mode where
  | greedy
  | lazy
  | possessive
deriving DecidableEq, Repr

/-- The least and the greatest number of characters that a pattern can match. -/
structure Width where
  least : Nat
  most : Nat
deriving DecidableEq, Repr

inductive Node where
  | empty
  | code (n : Nat)
  | notCode (n : Nat)
  | any
  | set (negated : Bool) (items : List SetItem)
  | anchor (a : Anchor)
  | seq (first second : Node)
  | alt (first second : Node)
  | group (index : Option Nat) (on off : Flags) (body : Node)
  | atomic (body : Node)
  | repetition (mode : Mode) (least : Nat) (most : Option Nat) (body : Node)
  | backreference (index : Nat)
  | conditional (index : Nat) (matched : Node) (unmatched : Node)
  | lookahead (negated : Bool) (body : Node)
  | lookbehind (negated : Bool) (width : Width) (body : Node)
deriving DecidableEq, Repr

namespace Node

def sequence : List Node → Node
  | [] => empty
  | [p] => p
  | p :: rest => seq p (sequence rest)

/-- The alternation of some patterns, tried in order. -/
def alternation : List Node → Node
  | [] => empty
  | [p] => p
  | p :: rest => alt p (alternation rest)

def isRepetition : Node → Bool
  | repetition .. => true
  | _ => false

/-- A condition on the place alone, other than a look around. -/
def isAnchor : Node → Bool
  | anchor _ => true
  | _ => false

/-- The body of a group that neither captures nor sets options, any other pattern as it is. -/
def ungrouped : Node → Node
  | group none on off body => if on.isEmpty && off.isEmpty then body else group none on off body
  | p => p

/-- A width that stands for any greater one as well. -/
def unboundedWidth : Nat := 18446744073709551616

/-- The width of a pattern, given those of the groups that it refers to. -/
def width (groups : Nat → Width) : Node → Width
  | empty => ⟨0, 0⟩
  | code _ => ⟨1, 1⟩
  | notCode _ => ⟨1, 1⟩
  | any => ⟨1, 1⟩
  | set _ _ => ⟨1, 1⟩
  | anchor _ => ⟨0, 0⟩
  | seq p q =>
      let a := p.width groups
      let b := q.width groups
      ⟨min (a.least + b.least) unboundedWidth, min (a.most + b.most) unboundedWidth⟩
  | alt p q =>
      let a := p.width groups
      let b := q.width groups
      ⟨min a.least b.least, max a.most b.most⟩
  | group _ _ _ body => body.width groups
  | atomic body => body.width groups
  | repetition _ least most body =>
      let a := body.width groups
      let upper :=
        match most with
        | some n => a.most * n
        | none => if a.most = 0 then 0 else unboundedWidth
      ⟨min (a.least * least) unboundedWidth, min upper unboundedWidth⟩
  | backreference index => groups index
  | conditional _ matched unmatched =>
      let a := matched.width groups
      let b := unmatched.width groups
      ⟨min a.least b.least, max a.most b.most⟩
  | lookahead _ _ => ⟨0, 0⟩
  | lookbehind _ _ _ => ⟨0, 0⟩

end Node

end JavadocTags.Pattern
