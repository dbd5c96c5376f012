import JavadocTags.Number.Loose
import JavadocTags.Pattern.Fault
import JavadocTags.Pattern.Lexeme
import JavadocTags.Pattern.Syntax
import JavadocTags.Unicode.CharacterName
import JavadocTags.Unicode.Identifier

/-!
# Reading patterns

The text of a pattern is read one lexeme at a time. Each lexeme acts twice on the state of the
reader: `settle` ends what cannot go on with this lexeme, such as a repetition that is followed by
no further mark, and `take` then reads the lexeme itself. Neither looks at later lexemes, so
reading a text is a fold, and reading two texts joined is reading one after the other.
-/
namespace JavadocTags.Pattern

/-- What a name in a group's opening is for. -/
inductive NameUse where
  | capture
  | backreference
  | condition
deriving DecidableEq, Repr

/-- The construct that an open parenthesis began. -/
inductive Opening where
  | whole
  | plain (index : Option Nat) (on off : Flags)
  | atomic
  | lookahead (negated : Bool)
  | lookbehind (negated : Bool) (outer : Option Nat)
  | matched (index : Nat)
  | unmatched (index : Nat) (matched : Node)
deriving Repr

/-- A construct that has begun: its place, whether blanks and comments are left out in it, the
branches that have ended and the items of the current one, both the last first. -/
structure Frame where
  opening : Opening
  place : Nat
  verbose : Bool
  branches : List Node := []
  items : List Node := []
deriving Repr

namespace Frame

/-- The current branch. -/
def branch (f : Frame) : Node :=
  Node.sequence f.items.reverse

def body (f : Frame) : Node :=
  Node.alternation (f.branch :: f.branches).reverse

def push (p : Node) (f : Frame) : Frame :=
  { f with items := p :: f.items }

end Frame

/-- The kinds of escapes that go on after their letter. -/
inductive EscapeKind where
  | hexadecimal (count : Nat)
  | octal (count : Nat)
  | reference
  | nameOpening
  | name
deriving DecidableEq, Repr

/-- An escape of which more may come; `read` holds what came after the backslash, the last first. -/
structure Escape where
  kind : EscapeKind
  place : Nat
  read : List Char
deriving Repr

namespace Escape

def text (e : Escape) : List Char :=
  '\\' :: e.read.reverse

end Escape

/-- The stages of a member of a set: none begun, one read, one read and a hyphen after it. -/
inductive SetStage where
  | opening
  | between
  | single (item : SetItem) (written : List Char)
  | ranging (item : SetItem) (written : List Char)
deriving Repr

/-- A set that has begun; the members read so far, the last first. -/
structure SetState where
  place : Nat
  negated : Bool := false
  members : List SetItem := []
  stage : SetStage := .opening
deriving Repr

/-- What the reader is in the middle of. -/
inductive Stage where
  | items
  | lineComment
  | quantified (least : Nat) (most : Option Nat)
  | braces (place : Nat) (least : List Char) (comma : Bool) (most : List Char)
  | escape (e : Escape)
  | set (s : SetState)
  | setEscape (s : SetState) (e : Escape)
  | opening (place : Nat)
  | extension (place : Nat)
  | namedExtension (place : Nat)
  | lookbehind (place : Nat)
  | name (place : Nat) (purpose : NameUse) (read : List Char)
  | flagsOn (place : Nat) (on : Flags)
  | flagsOff (place : Nat) (on off : Flags) (first : Bool)
  | comment (place : Nat)
deriving Repr

/-- The state of the reader: what it is in the middle of, the constructs that have begun with the
innermost first, and what it knows of groups. The width of a group is known once it has ended. -/
structure ReaderState where
  stage : Stage := .items
  frame : Frame := { opening := .whole, place := 0, verbose := false }
  outer : List Frame := []
  flags : Flags := {}
  names : List (List Char × Nat) := []
  widths : List (Option Width) := []
  lookbehindGroups : Option Nat := none
  conditions : List (Nat × Nat) := []
deriving Repr

abbrev Reading := Except CompileError

def refuse {α : Type} (cause : Fault) (place : Nat) : Reading α :=
  .error (.fault cause (some place))

namespace ReaderState

/-- The number of groups that have begun, the whole pattern included. -/
def groups (s : ReaderState) : Nat :=
  s.widths.length + 1

/-- The width of a group that has ended. -/
def groupWidth? (s : ReaderState) (index : Nat) : Option Width :=
  if index = 0 then none else (s.widths[index - 1]?).join

def groupWidth (s : ReaderState) (index : Nat) : Width :=
  (s.groupWidth? index).getD ⟨0, 0⟩

def push (s : ReaderState) (p : Node) : ReaderState :=
  { s with stage := .items, frame := s.frame.push p }

def enter (s : ReaderState) (place : Nat) (opening : Opening) (verbose : Bool) : ReaderState :=
  { s with
    stage := .items
    frame := { opening, place, verbose }
    outer := s.frame :: s.outer }

def enterCapture (s : ReaderState) (place : Nat) : ReaderState :=
  { s.enter place (.plain (some s.groups) {} {}) s.frame.verbose with
    widths := s.widths ++ [none] }

/-- Ends the innermost construct and adds it to the one around it. -/
def leaveInto (s : ReaderState) (p : Node) : ReaderState :=
  match s.outer with
  | [] => s
  | f :: outer => { s with stage := .items, frame := f.push p, outer }

/-- Ends the innermost construct at its closing parenthesis. -/
def leave (s : ReaderState) : ReaderState :=
  let body := s.frame.body
  match s.frame.opening with
  | .whole => s
  | .plain none on off => s.leaveInto (.group none on off body)
  | .plain (some index) on off =>
      let width := body.width s.groupWidth
      { s.leaveInto (.group (some index) on off body) with
        widths := s.widths.set (index - 1) (some width) }
  | .atomic => s.leaveInto (.atomic body)
  | .lookahead negated => s.leaveInto (.lookahead negated body)
  | .lookbehind negated outer =>
      { s.leaveInto (.lookbehind negated (body.width s.groupWidth) body) with
        lookbehindGroups := outer }
  | .matched index => s.leaveInto (.conditional index body .empty)
  | .unmatched index matched => s.leaveInto (.conditional index matched body)

/-- Within a look-behind only groups that ended before it can be referred to. -/
def checkLookbehind (s : ReaderState) (index place : Nat) : Reading Unit :=
  match s.lookbehindGroups with
  | none => .ok ()
  | some limit =>
      if (s.groupWidth? index).isNone then refuse .openGroupReference place
      else if limit ≤ index then refuse .lookbehindGroupReference place
      else .ok ()

end ReaderState

/-- The greatest number of repetitions that can be written, plus one. -/
def repetitionLimit : Nat := 4294967295

/-- The greatest number of a group that a condition can name, plus one. -/
def groupLimit : Nat := 1073741823

/-- Applies a quantifier at a place to the last item. -/
def quantify (s : ReaderState) (place : Nat) (least : Nat) (most : Option Nat) :
    Reading ReaderState :=
  match s.frame.items with
  | [] => refuse .nothingToRepeat place
  | item :: _ =>
      if item.isAnchor then refuse .nothingToRepeat place
      else if item.isRepetition then refuse .multipleRepeat place
      else .ok { s with stage := .quantified least most }

def finishQuantifier (s : ReaderState) (mode : Mode) (least : Nat) (most : Option Nat) :
    ReaderState :=
  match s.frame.items with
  | [] => { s with stage := .items }
  | item :: before =>
      { s with
        stage := .items
        frame := { s.frame with
          items := .repetition mode least most item.ungrouped :: before } }

/-- Ends a quantifier in braces. The place of its opening brace is `place`. -/
def finishBraces (s : ReaderState) (place : Nat) (least : List Char) (comma : Bool)
    (most : List Char) : Reading ReaderState :=
  let most := if comma then most else least
  let lower := Number.ofDigits 10 least
  let upper := Number.ofDigits 10 most
  if repetitionLimit ≤ lower then .error .repetitionTooLarge
  else if most.isEmpty then quantify s place lower none
  else if repetitionLimit ≤ upper then .error .repetitionTooLarge
  else if upper < lower then refuse .leastAboveMost (place + 1)
  else quantify s place lower (some upper)

/-- Reads what looked like a quantifier in braces as plain characters. -/
def bracesAsText (s : ReaderState) (least : List Char) (comma : Bool) (most : List Char) :
    ReaderState :=
  let written := '{' :: least ++ (if comma then [','] else []) ++ most
  written.foldl (fun s c => s.push (.code c.toNat)) { s with stage := .items }

def controlEscape? : Char → Option Nat
  | 'a' => some 7
  | 'f' => some 12
  | 'n' => some 10
  | 'r' => some 13
  | 't' => some 9
  | 'v' => some 11
  | '\\' => some 92
  | _ => none

/-- The class that a letter stands for after a backslash. -/
def categoryEscape? : Char → Option SetItem
  | 'd' => some (.category false .digit)
  | 'D' => some (.category true .digit)
  | 's' => some (.category false .space)
  | 'S' => some (.category true .space)
  | 'w' => some (.category false .word)
  | 'W' => some (.category true .word)
  | _ => none

def anchorEscape? : Char → Option Anchor
  | 'A' => some .textStart
  | 'b' => some .boundary
  | 'B' => some .noBoundary
  | 'Z' => some .textEnd
  | _ => none

/-- An escape that more characters may follow. -/
def openEscape? (inSet : Bool) (c : Char) : Option EscapeKind :=
  match c with
  | 'x' => some (.hexadecimal 2)
  | 'u' => some (.hexadecimal 4)
  | 'U' => some (.hexadecimal 8)
  | 'N' => some .nameOpening
  | '0' => some (.octal 2)
  | _ =>
      if inSet then if '1' ≤ c ∧ c ≤ '7' then some (.octal 2) else none
      else if '1' ≤ c ∧ c ≤ '9' then some .reference
      else none

/-- The character that an escape of one other character stands for. A letter or digit that has no
meaning is refused. -/
def plainEscape (place : Nat) (c : Char) : Reading Nat :=
  if c.isAlphanum then refuse (.badEscape ['\\', c]) place else .ok c.toNat

/-- The group that an escape with one or two digits refers to; `here` is the place after it. -/
def finishReference (s : ReaderState) (e : Escape) (here : Nat) : Reading ReaderState :=
  let index := Number.ofDigits 10 e.read.reverse
  if s.groups ≤ index then refuse (.invalidGroupReference index) (e.place + 1)
  else if (s.groupWidth? index).isNone then refuse .openGroupReference e.place
  else do
    s.checkLookbehind index here
    return s.push (.backreference index)

/-- The code point that a finished escape stands for. -/
def escapeValue (e : Escape) : Reading Nat :=
  match e.kind with
  | .hexadecimal _ =>
      let n := Number.ofDigits 16 e.read.reverse.tail
      if 0x110000 ≤ n then refuse (.badEscape e.text) e.place else .ok n
  | _ =>
      let n := Number.ofDigits 8 e.read.reverse
      if 0o377 < n then refuse (.octalOutOfRange e.text) e.place else .ok n

inductive EscapeStep where
  | more (e : Escape)
  | value (n : Nat)

/-- Whether an octal or hexadecimal escape has all its digits. -/
def escapeIsFull (e : Escape) : Bool :=
  match e.kind with
  | .hexadecimal count => e.read.length == count + 1
  | .octal count => e.read.length == count + 1
  | .reference => e.read.length == 3
  | _ => false

def continuesEscape (e : Escape) (x : Lexeme) : Bool :=
  !x.escaped &&
    match e.kind with
    | .hexadecimal _ => (Number.digitInBase? 16 x.char).isSome
    | .octal _ => (Number.digitInBase? 8 x.char).isSome
    | .reference =>
        if e.read.length == 1 then Number.isDigit x.char
        else (x.char :: e.read).all fun c => (Number.digitInBase? 8 c).isSome
    | .nameOpening => x.char == '{'
    | .name => true

variable [Unicode.CharacterNames]

def takeEscape (e : Escape) (x : Lexeme) : Reading EscapeStep :=
  match e.kind with
  | .nameOpening => .ok (.more { e with kind := .name, read := [] })
  | .name =>
      if x.isChar '}' then
        let name := e.read.reverse
        if name.isEmpty then refuse (.missingName "character name") x.place
        else
          match Unicode.CharacterNames.codePoint? name with
          | some n => .ok (.value n)
          | none => refuse (.undefinedCharacterName name) e.place
      else .ok (.more { e with read := x.text.reverse ++ e.read })
  | _ =>
      let e := { e with read := x.char :: e.read }
      if escapeIsFull e then do
        let n ← escapeValue e
        return .value n
      else .ok (.more e)

/-- Ends an escape that the next lexeme, or the end of the pattern at `here`, does not continue. -/
def settleEscape (e : Escape) (here : Nat) : Reading Nat :=
  match e.kind with
  | .hexadecimal _ => refuse (.incompleteEscape e.text) e.place
  | .nameOpening => refuse .missingOpening here
  | .name =>
      if e.read.isEmpty then refuse (.missingName "character name") here
      else refuse (.unterminatedName '}') (here - e.read.length)
  | _ => escapeValue e

def beginEscape (s : ReaderState) (x : Lexeme) : Reading ReaderState :=
  match anchorEscape? x.char with
  | some a => .ok (s.push (.anchor a))
  | none =>
      match categoryEscape? x.char with
      | some item => .ok (s.push (.set false [item]))
      | none =>
          match controlEscape? x.char with
          | some n => .ok (s.push (.code n))
          | none =>
              match openEscape? false x.char with
              | some kind => .ok { s with stage := .escape ⟨kind, x.place, [x.char]⟩ }
              | none => do
                  let n ← plainEscape x.place x.char
                  return s.push (.code n)

/-- The set that a finished list of members stands for; a single character is a literal. -/
def finishSet (s : ReaderState) (negated : Bool) (members : List SetItem) : ReaderState :=
  match members.reverse.eraseDups with
  | [.code n] => s.push (if negated then .notCode n else .code n)
  | items => s.push (.set negated items)

/-- Adds a member to a set, or closes a range. `written` is the lexeme that the member began
with and `here` the place after it. -/
def addMember (t : SetState) (item : SetItem) (written : List Char) (here : Nat) :
    Reading SetState :=
  match t.stage with
  | .ranging low lowWritten =>
      let place := here - (lowWritten.length + 1 + written.length)
      match low, item with
      | .code lo, .code hi =>
          if hi < lo then refuse (.badRange lowWritten written) place
          else .ok { t with members := .range lo hi :: t.members, stage := .between }
      | _, _ => refuse (.badRange lowWritten written) place
  | _ => .ok { t with stage := .single item written }

def takeMember (s : ReaderState) (t : SetState) (x : Lexeme) : Reading ReaderState :=
  if x.escaped then
    let value? := if x.char = 'b' then some 8 else controlEscape? x.char
    match value?, categoryEscape? x.char with
    | some n, _ => do
        let t ← addMember t (.code n) x.text x.stop
        return { s with stage := .set t }
    | none, some item => do
        let t ← addMember t item x.text x.stop
        return { s with stage := .set t }
    | none, none =>
        match openEscape? true x.char with
        | some kind => .ok { s with stage := .setEscape t ⟨kind, x.place, [x.char]⟩ }
        | none => do
            let n ← plainEscape x.place x.char
            let t ← addMember t (.code n) x.text x.stop
            return { s with stage := .set t }
  else do
    let t ← addMember t (.code x.char.toNat) x.text x.stop
    return { s with stage := .set t }

def takeInSet (s : ReaderState) (t : SetState) (x : Lexeme) : Reading ReaderState :=
  match t.stage with
  | .opening =>
      if x.isChar '^' then
        .ok { s with stage := .set { t with negated := true, stage := .between } }
      else takeMember s { t with stage := .between } x
  | .between =>
      if x.isChar ']' && !t.members.isEmpty then .ok (finishSet s t.negated t.members)
      else takeMember s t x
  | .single item written =>
      if x.isChar '-' then .ok { s with stage := .set { t with stage := .ranging item written } }
      else if x.isChar ']' then .ok (finishSet s t.negated (item :: t.members))
      else takeMember s { t with members := item :: t.members, stage := .between } x
  | .ranging item _ =>
      if x.isChar ']' then
        .ok (finishSet s t.negated (.code '-'.toNat :: item :: t.members))
      else takeMember s t x

def flag? : Char → Option Flags
  | 'i' => some { ignoreCase := true }
  | 'm' => some { multiline := true }
  | 's' => some { dotAll := true }
  | 'x' => some { verbose := true }
  | 'a' => some { ascii := true }
  | 'u' => some { unicode := true }
  | 't' => some { template := true }
  | _ => none

/-- A letter of an option, the one for locales included. -/
def isFlagLetter (x : Lexeme) : Bool :=
  !x.escaped && (x.char == 'L' || (flag? x.char).isSome)

def takeFlagOn (s : ReaderState) (place : Nat) (on : Flags) (x : Lexeme) :
    Reading ReaderState :=
  match flag? x.char with
  | none => refuse .localeFlag x.stop
  | some f =>
      let on := on.union f
      if (f.ascii || f.unicode) && on.ascii && on.unicode then
        refuse .incompatibleClassFlags x.stop
      else .ok { s with stage := .flagsOn place on }

def takeFlagOff (s : ReaderState) (place : Nat) (on off : Flags) (x : Lexeme) :
    Reading ReaderState :=
  match flag? x.char with
  | none => refuse .classFlagOff x.stop
  | some f =>
      if f.ascii || f.unicode then refuse .classFlagOff x.stop
      else .ok { s with stage := .flagsOff place on (off.union f) false }

/-- The fault of a character among options: a letter is an unknown option. -/
def flagFault (x : Lexeme) (otherwise : Fault) : Fault :=
  if !x.escaped && Unicode.isLetter x.char then .unknownFlag else otherwise

/-- Sets options for the whole pattern, which has to be the first thing in it. -/
def setGlobalFlags (s : ReaderState) (place : Nat) (on : Flags) : Reading ReaderState :=
  let flags := s.flags.union on
  match s.frame.opening with
  | .whole =>
      if s.frame.branches.isEmpty && s.frame.items.isEmpty then
        .ok { s with
          stage := .items
          flags
          frame := { s.frame with verbose := flags.verbose } }
      else refuse .misplacedFlags place
  | _ => refuse .misplacedFlags place

def enterFlagged (s : ReaderState) (place colon : Nat) (on off : Flags) : Reading ReaderState :=
  if on.template then refuse .globalFlagOn colon
  else if off.template then refuse .globalFlagOff colon
  else if on.meets off then refuse .flagOnAndOff colon
  else
    let verbose := (s.frame.verbose || on.verbose) && !off.verbose
    .ok (s.enter place (.plain none on off) verbose)

def takeInFlagsOn (s : ReaderState) (place : Nat) (on : Flags) (x : Lexeme) :
    Reading ReaderState :=
  if x.isChar ')' then setGlobalFlags s place on
  else if x.isChar ':' then enterFlagged s place x.place on {}
  else if x.isChar '-' then
    if on.template then refuse .globalFlagOn x.place
    else .ok { s with stage := .flagsOff place on {} true }
  else if isFlagLetter x then takeFlagOn s place on x
  else refuse (flagFault x .missingAfterFlags) x.place

def takeInFlagsOff (s : ReaderState) (place : Nat) (on off : Flags) (first : Bool)
    (x : Lexeme) : Reading ReaderState :=
  if x.isChar ':' && !first then enterFlagged s place x.place on off
  else if isFlagLetter x then takeFlagOff s place on off x
  else refuse (flagFault x (if first then .missingFlag else .missingColon)) x.place

/-- Begins what the character after `(?` says. -/
def takeExtension (s : ReaderState) (place : Nat) (x : Lexeme) : Reading ReaderState :=
  let verbose := s.frame.verbose
  if x.isChar 'P' then .ok { s with stage := .namedExtension place }
  else if x.isChar ':' then .ok (s.enter place (.plain none {} {}) verbose)
  else if x.isChar '#' then .ok { s with stage := .comment place }
  else if x.isChar '=' then .ok (s.enter place (.lookahead false) verbose)
  else if x.isChar '!' then .ok (s.enter place (.lookahead true) verbose)
  else if x.isChar '<' then .ok { s with stage := .lookbehind place }
  else if x.isChar '(' then .ok { s with stage := .name place .condition [] }
  else if x.isChar '>' then .ok (s.enter place .atomic verbose)
  else if x.isChar '-' then .ok { s with stage := .flagsOff place {} {} true }
  else if isFlagLetter x then takeFlagOn s place {} x
  else refuse (.unknownExtension ('?' :: x.text)) (x.place - 1)

/-- Begins what the character after `(?P` says. -/
def takeNamedExtension (s : ReaderState) (place : Nat) (x : Lexeme) : Reading ReaderState :=
  if x.isChar '<' then .ok { s with stage := .name place .capture [] }
  else if x.isChar '=' then .ok { s with stage := .name place .backreference [] }
  else refuse (.unknownExtension ('?' :: 'P' :: x.text)) (x.place - 2)

/-- Begins what the character after `(?<` says. -/
def takeLookbehind (s : ReaderState) (place : Nat) (x : Lexeme) : Reading ReaderState :=
  if x.isOneOf ['=', '!'] then
    let entered := s.enter place (.lookbehind (x.char == '!') s.lookbehindGroups) s.frame.verbose
    .ok { entered with lookbehindGroups := some (s.lookbehindGroups.getD s.groups) }
  else refuse (.unknownExtension ('?' :: '<' :: x.text)) (x.place - 2)

/-- The number that a condition names its group by. A negative number is none. -/
def groupNumber? (name : List Char) : Option Nat :=
  match Number.looseInt? 10 name with
  | some n => if 0 ≤ n then some n.toNat else none
  | none => none

/-- Uses the name that ends before the terminator, after which the place is `here`. -/
def finishName (s : ReaderState) (place : Nat) (purpose : NameUse) (name : List Char)
    (here : Nat) : Reading ReaderState :=
  let start := here - name.length - 1
  match purpose with
  | .capture =>
      if !Unicode.isIdentifier name then refuse (.badGroupName name) start
      else
        match s.names.lookup name with
        | some earlier => refuse (.redefinedGroupName name s.groups earlier) start
        | none => .ok { s.enterCapture place with names := (name, s.groups) :: s.names }
  | .backreference =>
      if !Unicode.isIdentifier name then refuse (.badGroupName name) start
      else
        match s.names.lookup name with
        | none => refuse (.unknownGroupName name) start
        | some index =>
            if (s.groupWidth? index).isNone then refuse .openGroupReference start
            else do
              s.checkLookbehind index here
              return s.push (.backreference index)
  | .condition =>
      if Unicode.isIdentifier name then
        match s.names.lookup name with
        | none => refuse (.unknownGroupName name) start
        | some index => do
            s.checkLookbehind index here
            return s.enter place (.matched index) s.frame.verbose
      else
        match groupNumber? name with
        | none => refuse (.badGroupName name) start
        | some index =>
            if index = 0 then refuse .zeroGroupNumber start
            else if groupLimit ≤ index then refuse (.invalidGroupReference index) start
            else do
              let known := s.conditions.any (·.1 == index)
              s.checkLookbehind index here
              return { s.enter place (.matched index) s.frame.verbose with
                conditions :=
                  if known then s.conditions else s.conditions ++ [(index, start)] }

def NameUse.terminator : NameUse → Char
  | .capture => '>'
  | .backreference => ')'
  | .condition => ')'

def takeBar (s : ReaderState) : ReaderState :=
  let f := s.frame
  let next :=
    match f.opening with
    | .matched index => { f with opening := .unmatched index f.body, items := [] }
    | .whole =>
        { f with branches := f.branch :: f.branches, items := [], verbose := s.flags.verbose }
    | _ => { f with branches := f.branch :: f.branches, items := [] }
  { s with frame := next }

def takeItem (s : ReaderState) (x : Lexeme) : Reading ReaderState :=
  if x.isChar '|' then .ok (takeBar s)
  else if x.isChar ')' then .ok s.leave
  else if s.frame.verbose && x.isOneOf [' ', '\t', '\n', '\r', '\x0b', '\x0c'] then .ok s
  else if s.frame.verbose && x.isChar '#' then .ok { s with stage := .lineComment }
  else if x.escaped then beginEscape s x
  else
    match x.char with
    | '[' => .ok { s with stage := .set { place := x.place } }
    | '?' => quantify s x.place 0 (some 1)
    | '*' => quantify s x.place 0 none
    | '+' => quantify s x.place 1 none
    | '{' => .ok { s with stage := .braces x.place [] false [] }
    | '.' => .ok (s.push .any)
    | '(' => .ok { s with stage := .opening x.place }
    | '^' => .ok (s.push (.anchor .lineStart))
    | '$' => .ok (s.push (.anchor .lineEnd))
    | c => .ok (s.push (.code c.toNat))

/-- Whether a lexeme goes on with a quantifier in braces. -/
def continuesBraces (least : List Char) (comma : Bool) (x : Lexeme) : Bool :=
  !x.escaped &&
    (Number.isDigit x.char || (x.char == ',' && !comma)
      || (x.char == '}' && !(least.isEmpty && !comma)))

/-- Ends what a lexeme does not go on with. -/
def settle (s : ReaderState) (x : Lexeme) : Reading ReaderState :=
  match s.stage with
  | .quantified least most =>
      if x.isOneOf ['?', '+'] then .ok s else .ok (finishQuantifier s .greedy least most)
  | .braces _ least comma most =>
      if continuesBraces least comma x then .ok s else .ok (bracesAsText s least comma most)
  | .escape e =>
      if continuesEscape e x || e.kind == .name then .ok s
      else if e.kind == .reference then finishReference s e x.place
      else do
        let n ← settleEscape e x.place
        return s.push (.code n)
  | .setEscape t e =>
      if continuesEscape e x || e.kind == .name then .ok s
      else do
        let n ← settleEscape e x.place
        let t ← addMember t (.code n) ['\\', e.read.getLastD ' '] x.place
        return { s with stage := .set t }
  | .opening place => if x.isChar '?' then .ok s else .ok (s.enterCapture place)
  | _ => .ok s

/-- Refuses a lexeme that cannot stand where an item may begin. -/
def checkItem (s : ReaderState) (x : Lexeme) : Reading Unit :=
  match s.stage, s.frame.opening with
  | .items, .whole =>
      if x.isChar ')' then
        if s.flags.ascii && s.flags.unicode then .error .asciiAndUnicode
        else refuse .unbalancedParenthesis x.place
      else .ok ()
  | .items, .unmatched .. =>
      if x.isChar '|' then refuse .tooManyBranches x.place else .ok ()
  | _, _ => .ok ()

/-- Reads a lexeme, once what it does not go on with has ended. -/
def take (s : ReaderState) (x : Lexeme) : Reading ReaderState :=
  match s.stage with
  | .items => takeItem s x
  | .lineComment => .ok (if x.isChar '\n' then { s with stage := .items } else s)
  | .quantified least most =>
      .ok (finishQuantifier s (if x.char = '?' then .lazy else .possessive) least most)
  | .braces place least comma most =>
      if x.char = '}' then finishBraces s place least comma most
      else if x.char = ',' then .ok { s with stage := .braces place least true most }
      else if comma then .ok { s with stage := .braces place least comma (most ++ [x.char]) }
      else .ok { s with stage := .braces place (least ++ [x.char]) comma most }
  | .escape e => do
      match ← takeEscape e x with
      | .more e => return { s with stage := .escape e }
      | .value n => return s.push (.code n)
  | .set t => takeInSet s t x
  | .setEscape t e => do
      match ← takeEscape e x with
      | .more e => return { s with stage := .setEscape t e }
      | .value n =>
          let letter := if e.kind = .name then 'N' else e.read.getLastD ' '
          let t ← addMember t (.code n) ['\\', letter] x.stop
          return { s with stage := .set t }
  | .opening place => .ok { s with stage := .extension place }
  | .extension place => takeExtension s place x
  | .namedExtension place => takeNamedExtension s place x
  | .lookbehind place => takeLookbehind s place x
  | .name place purpose read =>
      if x.isChar purpose.terminator then
        if read.isEmpty then refuse (.missingName "group name") x.place
        else finishName s place purpose read.reverse x.stop
      else .ok { s with stage := .name place purpose (x.text.reverse ++ read) }
  | .flagsOn place on => takeInFlagsOn s place on x
  | .flagsOff place on off first => takeInFlagsOff s place on off first x
  | .comment _ => .ok (if x.isChar ')' then { s with stage := .items } else s)

def step (s : ReaderState) (x : Lexeme) : Reading ReaderState := do
  let s ← settle s x
  checkItem s x
  take s x

def steps (s : ReaderState) (xs : List Lexeme) : Reading ReaderState :=
  xs.foldlM step s

/-- Ends what is open at the end of a pattern of a given length, apart from constructs. -/
def settleEnd (s : ReaderState) (here : Nat) : Reading ReaderState :=
  match s.stage with
  | .items => .ok s
  | .lineComment => .ok { s with stage := .items }
  | .quantified least most => .ok (finishQuantifier s .greedy least most)
  | .braces _ least comma most => .ok (bracesAsText s least comma most)
  | .escape e =>
      if e.kind == .reference then finishReference s e here
      else do
        let n ← settleEscape e here
        return s.push (.code n)
  | .set t => refuse .unterminatedSet t.place
  | .setEscape t e => do
      let _ ← settleEscape e here
      refuse .unterminatedSet t.place
  | .opening place => .ok (s.enterCapture place)
  | .extension _ => refuse .unexpectedEnd here
  | .namedExtension _ => refuse .unexpectedEnd here
  | .lookbehind _ => refuse .unexpectedEnd here
  | .name _ purpose read =>
      if read.isEmpty then refuse (.missingName "group name") here
      else refuse (.unterminatedName purpose.terminator) (here - read.length)
  | .flagsOn _ _ => refuse .missingAfterFlags here
  | .flagsOff _ _ _ first => refuse (if first then .missingFlag else .missingColon) here
  | .comment place => refuse .unterminatedComment place

/-- Ends the pattern. Every construct has to be closed and every condition has to name a group. -/
def finish (s : ReaderState) (here : Nat) : Reading ReaderState := do
  let s ← settleEnd s here
  match s.frame.opening with
  | .whole =>
      if s.flags.ascii && s.flags.unicode then .error .asciiAndUnicode
      else
        match s.conditions.find? fun (index, _) => s.groups ≤ index with
        | some (index, place) => refuse (.invalidGroupReference index) place
        | none => .ok s
  | _ => refuse .unterminatedGroup s.frame.place

/-- Reads a pattern. When a backslash is left over, everything up to the lexeme before it counts. -/
def readPattern (text : List Char) : Reading ReaderState :=
  let (xs, open?) := lexemes 0 text
  if open? then do
    let s ← steps {} xs.dropLast
    let _ ← (match xs.getLast? with
      | some x => do
          let s ← settle s x
          checkItem s x
      | none => .ok ())
    refuse .escapeAtEnd (text.length - 1)
  else do
    let s ← steps {} xs
    finish s text.length

end JavadocTags.Pattern
