import JavadocTags.Pattern.CharTest

/-!
# Matching

A backtracking matcher. A pattern is matched at a place of the text and then hands the place that
it reached to what follows; if that fails, the next way to match is tried. The first way that
succeeds is the answer, so alternatives, repetitions and the search for the first place all have an
order. A repetition ends when a round reads nothing.
-/
namespace JavadocTags.Pattern

/-- The places where a group began and ended last. A group that began again after it ended may
have its beginning behind its end. -/
structure Mark where
  start : Option Nat := none
  stop : Option Nat := none
deriving DecidableEq, Repr, Inhabited

namespace Mark

/-- The part of the text that a group holds, if it holds one. -/
def span? (m : Mark) : Option (Nat × Nat) :=
  match m.start, m.stop with
  | some start, some stop => if start ≤ stop then some (start, stop) else none
  | _, _ => none

end Mark

abbrev Marks := Array Mark

namespace Marks

/-- The mark of a group; groups count from one. -/
def get (marks : Marks) (index : Nat) : Mark :=
  marks.getD (index - 1) {}

def setStart (marks : Marks) (index place : Nat) : Marks :=
  marks.modify (index - 1) fun m => { m with start := some place }

def setStop (marks : Marks) (index place : Nat) : Marks :=
  marks.modify (index - 1) fun m => { m with stop := some place }

end Marks

/-- What follows a pattern: it is given the place reached and the marks, and may fail. -/
abbrev Rest := Nat → Marks → Option (Nat × Marks)

/-- A way to match at a place. -/
abbrev Matching := Nat → Marks → Rest → Option (Nat × Marks)

/-- How many characters from a place on pass a test, `limit` at most. -/
def runLength (text : Array Char) (test : Char → Bool) : Nat → Nat → Nat
  | 0, _ => 0
  | limit + 1, place =>
      match text[place]? with
      | some c => if test c then runLength text test limit (place + 1) + 1 else 0
      | none => 0

/-- Tries places from `first + extra` down to `first`. -/
def tryDown (first : Nat) (attempt : Nat → Option (Nat × Marks)) :
    Nat → Option (Nat × Marks)
  | 0 => attempt first
  | extra + 1 => (attempt (first + (extra + 1))).or (tryDown first attempt extra)

/-- Tries the `extra + 1` places from `first` up. -/
def tryUp (attempt : Nat → Option (Nat × Marks)) : Nat → Nat → Option (Nat × Marks)
  | first, 0 => attempt first
  | first, extra + 1 => (attempt first).or (tryUp attempt (first + 1) extra)

def repeatTest (text : Array Char) (mode : Mode) (least : Nat) (most : Option Nat)
    (test : Char → Bool) : Matching := fun place marks rest =>
  let available := text.size - place
  let count := runLength text test ((most.map (min available)).getD available) place
  if count < least then none
  else
    let attempt := fun reached => rest reached marks
    match mode with
    | .greedy => tryDown (place + least) attempt (count - least)
    | .lazy => tryUp attempt (place + least) (count - least)
    | .possessive => attempt (place + count)

/-- Whether a further round is allowed after `count` rounds, the last of which began at `last`. -/
def mayRepeat (most : Option Nat) (count : Nat) (last : Option Nat) (place : Nat) : Bool :=
  most.all (count < ·) && last != some place

/-- Repeats as often as possible first. `fuel` bounds the number of rounds. -/
def repeatGreedy (round : Matching) (least : Nat) (most : Option Nat) (rest : Rest) :
    (fuel count : Nat) → (last : Option Nat) → Nat → Marks → Option (Nat × Marks)
  | 0, _, _, _, _ => none
  | fuel + 1, count, last, place, marks =>
      if count < least then
        round place marks fun reached marks =>
          repeatGreedy round least most rest fuel (count + 1) last reached marks
      else if mayRepeat most count last place then
        (round place marks fun reached marks =>
          repeatGreedy round least most rest fuel (count + 1) (some place) reached marks).or
          (rest place marks)
      else rest place marks

/-- Repeats as seldom as possible first. `fuel` bounds the number of rounds. -/
def repeatLazy (round : Matching) (least : Nat) (most : Option Nat) (rest : Rest) :
    (fuel count : Nat) → (last : Option Nat) → Nat → Marks → Option (Nat × Marks)
  | 0, _, _, _, _ => none
  | fuel + 1, count, last, place, marks =>
      if count < least then
        round place marks fun reached marks =>
          repeatLazy round least most rest fuel (count + 1) last reached marks
      else
        (rest place marks).or
          (if mayRepeat most count last place then
            round place marks fun reached marks =>
              repeatLazy round least most rest fuel (count + 1) (some place) reached marks
          else none)

/-- Repeats as often as possible and never takes a round back. `fuel` bounds the number of
rounds. -/
def repeatPossessive (round : Matching) (least : Nat) (most : Option Nat) (rest : Rest) :
    (fuel count : Nat) → (last : Option Nat) → Nat → Marks → Option (Nat × Marks)
  | 0, _, _, _, _ => none
  | fuel + 1, count, last, place, marks =>
      if count < least then
        match round place marks fun reached marks => some (reached, marks) with
        | some (reached, marks) =>
            repeatPossessive round least most rest fuel (count + 1) last reached marks
        | none => none
      else if mayRepeat most count last place then
        match round place marks fun reached marks => some (reached, marks) with
        | some (reached, marks) =>
            repeatPossessive round least most rest fuel (count + 1) (some place) reached marks
        | none => rest place marks
      else rest place marks

/-- Repeats a pattern. After the least number of rounds every further one has to read something,
so there are at most as many as characters are left, and a last one that reads nothing. -/
def repeatRound (text : Array Char) (mode : Mode) (least : Nat) (most : Option Nat)
    (round : Matching) : Matching := fun place marks rest =>
  let fuel := least + (text.size - place) + 2
  match mode with
  | .greedy => repeatGreedy round least most rest fuel 0 none place marks
  | .lazy => repeatLazy round least most rest fuel 0 none place marks
  | .possessive => repeatPossessive round least most rest fuel 0 none place marks

def wordAt (text : Array Char) (flags : Flags) (place : Nat) : Bool :=
  match text[place]? with
  | some c => inCategory flags .word c.toNat
  | none => false

/-- Whether a word begins or ends at a place. -/
def atBoundary (text : Array Char) (flags : Flags) (place : Nat) : Bool :=
  (place != 0 && wordAt text flags (place - 1)) != wordAt text flags place

/-- Whether a condition on a place holds. In the empty text no place is at a boundary, nor is any
place not at one. -/
def Anchor.holds (text : Array Char) (flags : Flags) (place : Nat) : Anchor → Bool
  | lineStart => place == 0 || (flags.multiline && text[place - 1]? == some '\n')
  | textStart => place == 0
  | lineEnd =>
      place == text.size || (text[place]? == some '\n' &&
        (flags.multiline || place + 1 == text.size))
  | textEnd => place == text.size
  | boundary => text.size != 0 && atBoundary text flags place
  | noBoundary => text.size != 0 && !atBoundary text flags place

/-- Whether the `length` characters at two places are equal, in lowercase when case is ignored. -/
def sameText (text : Array Char) (flags : Flags) : (length first second : Nat) → Bool
  | 0, _, _ => true
  | length + 1, first, second =>
      match text[first]?, text[second]? with
      | some a, some b =>
          (if flags.ignoreCase then fold flags a.toNat == fold flags b.toNat else a == b)
            && sameText text flags length (first + 1) (second + 1)
      | _, _ => false

/-- Matches one character that passes a test. -/
def matchTest (text : Array Char) (test : Char → Bool) : Matching := fun place marks rest =>
  match text[place]? with
  | some c => if test c then rest (place + 1) marks else none
  | none => none

/-- Matches a pattern under given options. -/
def Node.run (text : Array Char) : Node → Flags → Matching
  | .empty, _ => fun place marks rest => rest place marks
  | .code n, flags => matchTest text (admitsCode flags n)
  | .notCode n, flags => matchTest text (fun c => !admitsCode flags n c)
  | .any, flags => matchTest text (fun c => flags.dotAll || c != '\n')
  | .set negated items, flags => matchTest text (admitsSet flags negated items)
  | .anchor a, flags => fun place marks rest =>
      if a.holds text flags place then rest place marks else none
  | .seq p q, flags => fun place marks rest =>
      p.run text flags place marks fun reached marks => q.run text flags reached marks rest
  | .alt p q, flags => fun place marks rest =>
      (p.run text flags place marks rest).or (q.run text flags place marks rest)
  | .group none on off body, flags => body.run text (flags.within on off)
  | .group (some index) on off body, flags => fun place marks rest =>
      body.run text (flags.within on off) place (marks.setStart index place)
        fun reached marks => rest reached (marks.setStop index reached)
  | .atomic body, flags => fun place marks rest =>
      match body.run text flags place marks fun reached marks => some (reached, marks) with
      | some (reached, marks) => rest reached marks
      | none => none
  | .repetition mode least most body, flags =>
      match body.test? with
      | some test => repeatTest text mode least most (test flags)
      | none => repeatRound text mode least most (body.run text flags)
  | .backreference index, flags => fun place marks rest =>
      match (marks.get index).span? with
      | some (start, stop) =>
          if sameText text flags (stop - start) start place then rest (place + (stop - start)) marks
          else none
      | none => none
  | .conditional index matched unmatched, flags => fun place marks rest =>
      if (marks.get index).span?.isSome then matched.run text flags place marks rest
      else unmatched.run text flags place marks rest
  | .lookahead negated body, flags => fun place marks rest =>
      match body.run text flags place marks fun reached marks => some (reached, marks) with
      | some (_, inner) => if negated then none else rest place inner
      | none => if negated then rest place marks else none
  | .lookbehind negated width body, flags => fun place marks rest =>
      let found :=
        if place < width.least then none
        else
          body.run text flags (place - width.least) marks
            fun reached marks => some (reached, marks)
      match found with
      | some (_, inner) => if negated then none else rest place inner
      | none => if negated then rest place marks else none

/-- A match: the part of the text that it covers, and the marks of the groups. -/
structure Match where
  start : Nat
  stop : Nat
  marks : Marks
deriving Repr

/-- Matches at a place of the text, with no group marked yet. -/
def Node.matchAt? (node : Node) (flags : Flags) (groups : Nat) (text : Array Char)
    (place : Nat) : Option Match :=
  (node.run text flags place (Array.replicate groups {})
    fun reached marks => some (reached, marks)).map fun (stop, marks) => ⟨place, stop, marks⟩

/-- The first match that begins at one of the `more + 1` places from `place` on. -/
def Node.searchFrom (node : Node) (flags : Flags) (groups : Nat) (text : Array Char) :
    (more place : Nat) → Option Match
  | 0, place => node.matchAt? flags groups text place
  | more + 1, place =>
      match node.matchAt? flags groups text place with
      | some found => some found
      | none => node.searchFrom flags groups text more (place + 1)

def Node.search? (node : Node) (flags : Flags) (groups : Nat) (text : Array Char) :
    Option Match :=
  node.searchFrom flags groups text text.size 0

end JavadocTags.Pattern
