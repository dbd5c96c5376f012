import JavadocTags.Java.Scanner

/-!
# A cursor over tokens

The scanner as a cursor that is moved along the tokens. A walk looks tokens up by their position, so
it may look one up that does not exist, and it may come to stand past the end. Nothing but the steps
of a loop makes it end: a loop is given a number of turns, and one that does not end is unfinished
however many it is given. A type's body is walked by a loop within the walk of the member that
declares the type; how deep such loops may lie in one another is not limited.
-/
namespace JavadocTags.Java

inductive CursorFault where
  | outOfRange
  | unfinished
deriving DecidableEq, Repr

abbrev Walk := Except CursorFault

/-- Where a walk stands, what it has found, and from where to where the members reach that its loops
have read. -/
structure Cursor where
  position : Nat
  found : List Declaration
  members : List (Nat × Nat)
deriving Repr

namespace Cursor

def moveTo (c : Cursor) (position : Nat) : Cursor :=
  { c with position }

/-- The cursor some tokens further. -/
def advance (c : Cursor) (count : Nat) : Cursor :=
  c.moveTo (c.position + count)

def record (c : Cursor) (found : List Declaration) : Cursor :=
  { c with found := c.found ++ found }

/-- The cursor after a loop has read a member, with the position at which the member begins. -/
def noteMember (c : Cursor) (start : Nat) : Cursor :=
  { c with members := c.members ++ [(start, c.position)] }

end Cursor

/-- The token at a position. -/
def tokenAt (ts : List Token) (position : Nat) : Walk Token :=
  match ts[position]? with
  | some t => .ok t
  | none => .error .outOfRange

/-- The text of the token at a position, or the empty text past the end. -/
def peek (ts : List Token) (position : Nat) : String :=
  if h : position < ts.length then ts[position].text else ""

/-! ## Skipping -/

/-- Walks to just past the bracket that closes the outermost open one. -/
def walkBrackets (ts : List Token) (opening closing : String) : Nat → Int → Nat → Walk Nat
  | 0, _, _ => .error .unfinished
  | turns + 1, depth, position =>
      if ts.length ≤ position then .ok position
      else if peek ts position = opening then
        walkBrackets ts opening closing turns (depth + 1) (position + 1)
      else if peek ts position = closing then
        if depth - 1 = 0 then .ok (position + 1)
        else walkBrackets ts opening closing turns (depth - 1) (position + 1)
      else walkBrackets ts opening closing turns depth (position + 1)

/-- Walks from an opening brace to just past its partner. -/
def walkBraces (ts : List Token) (turns position : Nat) : Walk Nat :=
  walkBrackets ts "\x7b" "\x7d" turns 0 position

def walkParentheses (ts : List Token) (turns position : Nat) : Walk Nat :=
  walkBrackets ts "(" ")" turns 0 position

/-- Walks to just past the next semicolon outside brackets, or up to a closing brace. -/
def walkStatement (ts : List Token) : Nat → Nat → Walk Nat
  | 0, _ => .error .unfinished
  | turns + 1, position =>
      if ts.length ≤ position then .ok position
      else if peek ts position = ";" then .ok (position + 1)
      else if peek ts position = "\x7b" then do
        walkStatement ts turns (← walkBraces ts (turns + 1) position)
      else if peek ts position = "(" then do
        walkStatement ts turns (← walkParentheses ts (turns + 1) position)
      else if peek ts position = "\x7d" then .ok position
      else walkStatement ts turns (position + 1)

/-- Walks past the further parts of a qualified name. -/
def walkQualifiers (ts : List Token) : Nat → Nat → Walk Nat
  | 0, _ => .error .unfinished
  | turns + 1, position =>
      if peek ts position = "." ∧ isIdentifier (peek ts (position + 1)) then
        walkQualifiers ts turns (position + 2)
      else .ok position

def walkArguments (ts : List Token) (turns position : Nat) : Walk Nat :=
  if peek ts position = "(" then walkParentheses ts turns position else .ok position

def walkBlock (ts : List Token) (turns position : Nat) : Walk Nat :=
  if peek ts position = "\x7b" then walkBraces ts turns position else .ok position

/-- Walks past an annotation, from its `@` on. -/
def walkAnnotationFrom (ts : List Token) (turns position : Nat) : Walk Nat :=
  if isIdentifier (peek ts (position + 1)) then do
    walkArguments ts turns (← walkQualifiers ts turns (position + 2))
  else walkArguments ts turns (position + 1)

def walkAnnotations (ts : List Token) : Nat → Nat → Walk Nat
  | 0, _ => .error .unfinished
  | turns + 1, position =>
      if peek ts position = "@" then do
        walkAnnotations ts turns (← walkAnnotationFrom ts (turns + 1) position)
      else .ok position

def walkHeader (ts : List Token) : Nat → Nat → Walk Nat
  | 0, _ => .error .unfinished
  | turns + 1, position =>
      if ts.length ≤ position ∨ peek ts position = "\x7b" ∨ peek ts position = ";" ∨
          peek ts position = "\x7d" then .ok position
      else if peek ts position = "(" then do
        walkHeader ts turns (← walkParentheses ts (turns + 1) position)
      else walkHeader ts turns (position + 1)

/-- Walks past what follows the parameters of a method, constructor or annotation field. -/
def walkCallableTail (ts : List Token) (isField : Bool) : Nat → Nat → Walk Nat
  | 0, _ => .error .unfinished
  | turns + 1, position =>
      if ts.length ≤ position then .ok position
      else if peek ts position = "\x7b" then
        if isField then do
          walkCallableTail ts isField turns (← walkBraces ts (turns + 1) position)
        else walkBraces ts (turns + 1) position
      else if peek ts position = "(" then do
        walkCallableTail ts isField turns (← walkParentheses ts (turns + 1) position)
      else if peek ts position = ";" then .ok (position + 1)
      else if peek ts position = "\x7d" then .ok position
      else walkCallableTail ts isField turns (position + 1)

/-! ## Declarations -/

def walkConstants (ts : List Token) : Nat → Cursor → Walk Cursor
  | 0, _ => .error .unfinished
  | turns + 1, c =>
      if ts.length ≤ c.position then .ok c
      else if peek ts c.position = ";" then .ok (c.advance 1)
      else if peek ts c.position = "\x7d" then .ok c
      else if peek ts c.position = "," then walkConstants ts turns (c.advance 1)
      else do
        let start ← tokenAt ts c.position
        let named ← walkAnnotations ts (turns + 1) c.position
        let name := peek ts named
        if isIdentifier name then
          let c := c.record [declarationAt start .enumConstant name]
          let block ← walkArguments ts (turns + 1) (named + 1)
          walkConstants ts turns (c.moveTo (← walkBlock ts (turns + 1) block))
        else walkConstants ts turns (c.moveTo (named + 1))

def walkCallable (ts : List Token) (turns : Nat) (enclosing : Option Enclosing) (name : String)
    (start : Token) (c : Cursor) : Walk Cursor := do
  let kind := callableKind enclosing name
  let c := c.record [declarationAt start kind name]
  let parameters ← walkParentheses ts turns c.position
  return c.moveTo (← walkCallableTail ts (kind == .annotationField) turns parameters)

section Members
variable (ts : List Token) (walkBody : Enclosing → Cursor → Walk Cursor)

/-- Walks through a type declaration whose keyword lies behind the cursor; its body is left to
`walkBody`. -/
def walkType (turns : Nat) (kind : Option DeclarationKind) (start : Token) (c : Cursor) :
    Walk Cursor := do
  let name := peek ts c.position
  let c := c.record (kind.toList.map (declarationAt start · name))
  let header ← walkHeader ts turns (c.position + 1)
  if peek ts header = "\x7b" then
    let c := c.moveTo (header + 1)
    let c ← if kind = some .enumType then walkConstants ts turns c else .ok c
    walkBody ⟨kind, name⟩ c
  else return c.moveTo header

/-- Walks on through a member that begins at `start` and whose last word so far is `previous`. -/
def walkMemberFrom (enclosing : Option Enclosing) (start : Token) :
    Nat → String → Cursor → Walk Cursor
  | 0, _, _ => .error .unfinished
  | turns + 1, previous, c =>
      if ts.length ≤ c.position then .ok c
      else if peek ts c.position = "@" ∧ peek ts (c.position + 1) = "interface" then
        walkType ts walkBody (turns + 1) (some .annotationType) start (c.advance 2)
      else if peek ts c.position = "@" then do
        let stop ← walkAnnotationFrom ts (turns + 1) c.position
        walkMemberFrom enclosing start turns previous (c.moveTo stop)
      else
        match typeKeyword? (peek ts c.position), isIdentifier (peek ts (c.position + 1)) with
        | some kind, true => walkType ts walkBody (turns + 1) kind start (c.advance 1)
        | _, _ =>
            if peek ts c.position = "(" ∧ isIdentifier previous then
              walkCallable ts (turns + 1) enclosing previous start c
            else if peek ts c.position = "\x7b" then do
              return c.moveTo (← walkBraces ts (turns + 1) c.position)
            else if peek ts c.position = "=" ∨ peek ts c.position = "(" then do
              return c.moveTo (← walkStatement ts (turns + 1) c.position)
            else if peek ts c.position = ";" then .ok (c.advance 1)
            else if peek ts c.position = "\x7d" then .ok c
            else walkMemberFrom enclosing start turns (peek ts c.position) (c.advance 1)

def walkMember (turns : Nat) (enclosing : Option Enclosing) (c : Cursor) : Walk Cursor := do
  let start ← tokenAt ts c.position
  if start.text = "\x7b" then
    return c.moveTo (← walkBraces ts turns c.position)
  else if start.text = "static" ∧ peek ts (c.position + 1) = "\x7b" then
    return c.moveTo (← walkBraces ts turns (c.position + 1))
  else walkMemberFrom ts walkBody enclosing start turns "" c

end Members

/-- Walks through the members of a body and past its closing brace. A member at which the cursor
does not move is stepped over. -/
def walkBody (ts : List Token) : Nat → Enclosing → Cursor → Walk Cursor
  | 0, _, _ => .error .unfinished
  | turns + 1, e, c =>
      if ts.length ≤ c.position then .ok c
      else if peek ts c.position = "\x7d" then .ok (c.advance 1)
      else if peek ts c.position = ";" then walkBody ts turns e (c.advance 1)
      else do
        let next ← walkMember ts (walkBody ts turns) (turns + 1) (some e) c
        let noted := next.noteMember c.position
        if next.position = c.position then walkBody ts turns e (noted.advance 1)
        else walkBody ts turns e noted

def walkFile (ts : List Token) : Nat → Cursor → Walk Cursor
  | 0, _ => .error .unfinished
  | turns + 1, c =>
      if ts.length ≤ c.position then .ok c
      else if isPreamble (peek ts c.position) then do
        walkFile ts turns (c.moveTo (← walkStatement ts (turns + 1) c.position))
      else if peek ts c.position = ";" ∨ peek ts c.position = "\x7d" then
        walkFile ts turns (c.advance 1)
      else do
        let next ← walkMember ts (walkBody ts turns) (turns + 1) none c
        walkFile ts turns (next.noteMember c.position)

def walk (ts : List Token) (turns : Nat) : Walk Cursor :=
  walkFile ts turns ⟨0, [], []⟩

end JavadocTags.Java
