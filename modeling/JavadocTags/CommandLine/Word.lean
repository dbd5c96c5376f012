import JavadocTags.Unicode.Numeric

/-!
# Words of a command line

A grammar lists the switches of a command and says what operands it takes. Each word of a command
line is told apart by it: a switch may be shortened as long as one switch only can be meant, its
value may follow after an equals sign, and a switch of one letter may have more letters attached.
After the word `--` every word is an operand.
-/
namespace JavadocTags.CommandLine

/-- What a switch takes. -/
inductive SwitchValue where
  | nothing
  | text
  | oneOf (choices : List String)
deriving DecidableEq, Repr

structure Switch (κ : Type) where
  key : κ
  names : List String
  value : SwitchValue
deriving Repr

/-- The name of a switch in messages. -/
def Switch.title {κ : Type} (switch : Switch κ) : String :=
  String.intercalate "/" switch.names

/-- What operands a command takes: none, a choice that is required, any number, or the name of a
command with all words after it. -/
inductive Operands where
  | none
  | one (title : String) (choices : List String)
  | many
  | command (title : String) (choices : List String)
deriving DecidableEq, Repr

structure Grammar (κ : Type) where
  switches : List (Switch κ)
  operands : Operands

inductive Misuse where
  | ambiguous (word : String) (names : List String)
  | needlessValue (title value : String)
  | missingValue (title : String)
  | badChoice (title value : String) (choices : List String)
  | missingOperand (title : String)
  | unread (words : List String)
deriving DecidableEq, Repr

/-- A value attached to a switch; only one after an equals sign is meant as a value for sure. -/
structure Attached where
  text : List Char
  assigned : Bool
deriving DecidableEq, Repr

inductive Word (κ : Type) where
  | plain (text : String)
  | separator
  | unknownSwitch (text : String)
  | switch (text : String) (switch : Switch κ) (name : String) (attached : Option Attached)

def Word.text {κ : Type} : Word κ → String
  | .plain text => text
  | .separator => "--"
  | .unknownSwitch text => text
  | .switch text .. => text

/-- The text before the first equals sign, and the one after it if there is one. -/
def splitAssignment (text : List Char) : List Char × Option (List Char) :=
  match text.dropWhile (· ≠ '=') with
  | [] => (text, none)
  | _ :: value => (text.takeWhile (· ≠ '='), some value)

/-- Whether a text is a minus followed by a number, which makes it an operand. -/
def isNegativeNumber (text : List Char) : Bool :=
  let digits := text.drop 1
  let digits := if digits.getLast? = some '\n' then digits.dropLast else digits
  let whole := digits.takeWhile Unicode.isDecimal
  match digits.drop whole.length with
  | [] => !whole.isEmpty
  | '.' :: fraction => !fraction.isEmpty && fraction.all Unicode.isDecimal
  | _ => false

namespace Grammar

variable {κ : Type}

def byName (grammar : Grammar κ) : List (String × Switch κ) :=
  grammar.switches.flatMap fun switch => switch.names.map fun name => (name, switch)

/-- The switch of a name. -/
def find? (grammar : Grammar κ) (name : String) : Option (Switch κ) :=
  grammar.byName.lookup name

/-- The switches that a word may be short for. -/
def candidates (grammar : Grammar κ) (text : String) :
    List (String × Switch κ × Option Attached) :=
  match text.toList with
  | '-' :: '-' :: rest =>
      let (front, value) := splitAssignment ('-' :: '-' :: rest)
      let attached := value.map fun v => ⟨v, true⟩
      grammar.byName.filterMap fun (name, switch) =>
        if front.isPrefixOf name.toList then some (name, switch, attached) else none
  | '-' :: letter :: rest =>
      grammar.byName.filterMap fun (name, switch) =>
        if name.toList = ['-', letter] then some (name, switch, some ⟨rest, false⟩)
        else if text.toList.isPrefixOf name.toList then some (name, switch, none)
        else none
  | _ => []

/-- The word for a text that begins with a minus and is more than that. -/
def readSwitch (grammar : Grammar κ) (text : String) : Except Misuse (Word κ) :=
  let (front, value) := splitAssignment text.toList
  let name := String.ofList front
  match value, grammar.find? name with
  | some v, some switch => .ok (.switch text switch name (some ⟨v, true⟩))
  | _, _ =>
      match grammar.candidates text with
      | [(name, switch, attached)] => .ok (.switch text switch name attached)
      | [] =>
          if isNegativeNumber text.toList || text.toList.contains ' ' then .ok (.plain text)
          else .ok (.unknownSwitch text)
      | several => .error (.ambiguous text (several.map (·.1)))

def readWord (grammar : Grammar κ) (text : String) : Except Misuse (Word κ) :=
  match grammar.find? text with
  | some switch => .ok (.switch text switch text none)
  | none =>
      match text.toList with
      | '-' :: _ :: _ => grammar.readSwitch text
      | _ => .ok (.plain text)

def readWords (grammar : Grammar κ) : List String → Except Misuse (List (Word κ))
  | [] => .ok []
  | text :: rest =>
      if text = "--" then .ok (.separator :: rest.map .plain)
      else do
        let word ← grammar.readWord text
        let words ← grammar.readWords rest
        return word :: words

end Grammar

end JavadocTags.CommandLine
