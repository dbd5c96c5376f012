import JavadocTags.CommandLine.Word

/-!
# Reading a command line

The words are read in order: a switch takes its value from the words after it, and the operands are
taken from the first words that are none. They are taken once, as many as stand together there;
operands that come after a switch are left over. What is wrong ends the reading, but what was read
before it stays, since a switch such as the one for help has its effect at once.
-/
namespace JavadocTags.CommandLine

/-- What is read: a switch, perhaps with a value, or the operands. -/
inductive Event (κ : Type) where
  | switch (switch : Switch κ) (value : Option String)
  | operands (values : List String)

/-- What was read, the words left over, and what ended the reading if something was wrong. -/
structure Reading (κ : Type) where
  events : List (Event κ) := []
  unread : List String := []
  misuse : Option Misuse := none

variable {κ : Type}

def Reading.after (reading : Reading κ) (events : List (Event κ)) (unread : List String) :
    Reading κ :=
  { reading with events := events ++ reading.events, unread := unread ++ reading.unread }

/-- Whether a name begins with one minus only. -/
def isShort (name : String) : Bool :=
  match name.toList with
  | _ :: second :: _ => second != '-'
  | _ => false

/-- What a word with switches says: the switches, what is left over of it, and the last switch if
its value is the next word. -/
structure Cluster (κ : Type) where
  events : List (Event κ) := []
  unread : List String := []
  awaiting : Option (Switch κ) := none

/-- What follows the letter of a switch inside a word. -/
def attachedAfter : List Char → Option Attached
  | [] => none
  | '=' :: value => some ⟨value, true⟩
  | text => some ⟨text, false⟩

/-- Reads a switch with what is attached to it; `room` bounds the letters attached. -/
def readCluster (grammar : Grammar κ) (room : Nat) (switch : Switch κ) (name : String)
    (attached : Option Attached) : Except Misuse (Cluster κ) :=
  match switch.value, attached with
  | .nothing, none => .ok { events := [.switch switch none] }
  | .nothing, some a =>
      let needless : Misuse := .needlessValue switch.title (String.ofList a.text)
      match room, a.text with
      | room + 1, letter :: rest =>
          if !isShort name || a.assigned || letter = '-' then .error needless
          else
            let next := String.ofList ['-', letter]
            match grammar.find? next with
            | none =>
                .ok { events := [.switch switch none]
                      unread := [String.ofList ('-' :: letter :: rest)] }
            | some other => do
                let cluster ← readCluster grammar room other next (attachedAfter rest)
                return { cluster with events := .switch switch none :: cluster.events }
      | _, _ => .error needless
  | _, none => .ok { awaiting := some switch }
  | _, some a => .ok { events := [.switch switch (some (String.ofList a.text))] }

def Word.isOperand : Word κ → Bool
  | .plain _ => true
  | .separator => true
  | _ => false

def Word.isSeparator : Word κ → Bool
  | .separator => true
  | _ => false

def Operands.count (operands : Operands) (words : List (Word κ)) : Nat :=
  let marks := (words.takeWhile Word.isSeparator).length
  match operands, words.drop marks with
  | .none, _ => 0
  | .many, _ => (words.takeWhile Word.isOperand).length
  | .one .., .plain _ :: rest => marks + 1 + (rest.takeWhile Word.isSeparator).length
  | .command .., .plain _ :: _ => words.length
  | _, _ => 0

/-- The operands among words; the first word that marks them is none itself, except before the
name of a command. -/
def Operands.values (operands : Operands) (words : List (Word κ)) : List String :=
  let texts := words.map Word.text
  match operands with
  | .command .. => texts
  | _ => texts.erase "--"

/-- What the end of the words means when the operands were not taken. -/
def Operands.atEnd : Operands → Reading κ
  | .one title _ => { misuse := some (.missingOperand title) }
  | .many => { events := [.operands []] }
  | _ => {}

/-- Reads words; `taken` says whether the operands were taken. -/
def readFrom (grammar : Grammar κ) (taken : Bool) (words : List (Word κ)) : Reading κ :=
  match words with
  | [] => if taken then {} else grammar.operands.atEnd
  | .switch text switch name attached :: rest =>
      match readCluster grammar text.length switch name attached with
      | .error misuse => { misuse := some misuse }
      | .ok cluster =>
          match cluster.awaiting with
          | none => (readFrom grammar taken rest).after cluster.events cluster.unread
          | some switch =>
              match rest with
              | .plain value :: rest =>
                  (readFrom grammar taken rest).after
                    (cluster.events ++ [.switch switch (some value)]) cluster.unread
              | _ => { misuse := some (.missingValue switch.title) }
  | .unknownSwitch text :: rest => (readFrom grammar taken rest).after [] [text]
  | word :: rest =>
      match h : if taken then 0 else grammar.operands.count (word :: rest) with
      | 0 => (readFrom grammar taken rest).after [] [word.text]
      | n + 1 =>
          let values := grammar.operands.values ((word :: rest).take (n + 1))
          (readFrom grammar true (rest.drop n)).after [.operands values] []
termination_by words.length
decreasing_by
  all_goals simp only [List.length_cons, List.length_drop]; omega

/-- What is wrong with a value, if it is none of the choices. -/
def choiceMisuse? (title value : String) (choices : List String) : Option Misuse :=
  if choices.contains value then none else some (.badChoice title value choices)

def Event.misuse? (operands : Operands) : Event κ → Option Misuse
  | .switch used (some value) =>
      match used.value with
      | .oneOf choices => choiceMisuse? used.title value choices
      | _ => none
  | .switch _ none => none
  | .operands values =>
      match operands with
      | .one title choices => choiceMisuse? title (values.headD "") choices
      | .command title choices => choiceMisuse? title (values.headD "") choices
      | _ => none

/-- A reading that ends at the first value that is none of the choices for it. -/
def Reading.checked (operands : Operands) (reading : Reading κ) : Reading κ :=
  let good := reading.events.takeWhile fun event => (event.misuse? operands).isNone
  match reading.events.drop good.length with
  | [] => reading
  | event :: _ => { reading with events := good, misuse := event.misuse? operands }

def Grammar.read (grammar : Grammar κ) (texts : List String) : Reading κ :=
  match grammar.readWords texts with
  | .error misuse => { misuse := some misuse }
  | .ok words => (readFrom grammar false words).checked grammar.operands

end JavadocTags.CommandLine
