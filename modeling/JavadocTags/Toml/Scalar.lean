import JavadocTags.Number.Loose
import JavadocTags.Value.Basic

/-!
# Numbers, dates and times in TOML

A number may have underscores between its digits. A date has a valid month and day, a time a valid
hour, minute and second; a fraction of a second counts up to microseconds.
-/
namespace JavadocTags.Toml

def startsWith (text : List Char) (front : String) : Bool :=
  front.toList.isPrefixOf text

/-- The base of a number by its mark. -/
def baseOf (raw : List Char) : Nat :=
  if startsWith raw "0b" then 2
  else if startsWith raw "0o" then 8
  else if startsWith raw "0x" then 16
  else 10

/-- Drops the underscores that have a digit on each side; `previous` is the character before. -/
def dropUnderscores (isDigit : Char → Bool) (previous : Char) : List Char → List Char
  | [] => []
  | '_' :: next :: rest =>
      if isDigit previous && isDigit next then next :: dropUnderscores isDigit next rest
      else '_' :: next :: dropUnderscores isDigit next rest
  | c :: rest => c :: dropUnderscores isDigit c rest

/-- Whether the zero at the front of a number has to be refused. -/
def hasBadZero (signed : Bool) (raw : List Char) : Bool :=
  1 < raw.length &&
    ((startsWith raw "0" && !(["0.", "0o", "0x", "0b", "0e"].any (startsWith raw ·)))
      || (signed && startsWith raw "."))

def endsInPoint (clean : List Char) : Bool :=
  clean.getLast? == some '.'
    || (!startsWith clean "0x" && (clean.takeWhile (· ≠ 'e')).getLast? == some '.')

def number? (text : List Char) : Option Value :=
  let (sign, raw) :=
    match text with
    | '+' :: rest => (['+'], rest)
    | '-' :: rest => (['-'], rest)
    | _ => ([], text)
  let signed := !sign.isEmpty
  let base := baseOf raw
  if hasBadZero signed raw || (signed && base ≠ 10) then none
  else
    let isDigit := fun c => (Number.digitInBase? base c).isSome
    let clean := (dropUnderscores isDigit ' ' raw).map Char.toLower
    if clean.contains '_' || endsInPoint clean then none
    else
      match Number.looseInt? base (sign ++ clean) with
      | some n => some (.int n)
      | none => (Number.looseFloat? (sign ++ clean)).map .float

/-- Exactly `count` ASCII digits and what follows them. -/
def fixedDigits? (count : Nat) (text : List Char) : Option (Nat × List Char) :=
  let digits := text.take count
  if digits.length = count ∧ digits.all Number.isDigit then
    some (Number.ofDigits 10 digits, text.drop count)
  else none

def expect? (c : Char) : List Char → Option (List Char)
  | d :: rest => if d = c then some rest else none
  | [] => none

def isLeap (year : Nat) : Bool :=
  year % 4 = 0 && (year % 100 ≠ 0 || year % 400 = 0)

def daysIn (year month : Nat) : Nat :=
  if month = 2 then if isLeap year then 29 else 28
  else if month = 4 ∨ month = 6 ∨ month = 9 ∨ month = 11 then 30
  else 31

/-- A date at the front of a text, and what follows it. -/
def spanDate? (text : List Char) : Option (Date × List Char) := do
  let digits := text.takeWhile Number.isDigit
  if digits.isEmpty then none
  let year := Number.ofDigits 10 digits
  let (month, rest) ← fixedDigits? 2 (← expect? '-' (text.dropWhile Number.isDigit))
  let (day, rest) ← fixedDigits? 2 (← expect? '-' rest)
  if 1 ≤ year ∧ year ≤ 9999 ∧ 1 ≤ month ∧ month ≤ 12 ∧ 1 ≤ day ∧ day ≤ daysIn year month then
    return (⟨year, month, day⟩, rest)
  else none

/-- The microseconds that the digits after the point stand for. -/
def microseconds (digits : List Char) : Nat :=
  Number.ofDigits 10 ((digits ++ List.replicate 6 '0').take 6)

/-- A time of day at the front of a text, and what follows it. -/
def spanTime? (text : List Char) : Option (Time × List Char) := do
  let (hour, rest) ← fixedDigits? 2 text
  let (minute, rest) ← fixedDigits? 2 (← expect? ':' rest)
  let (second, rest) ← fixedDigits? 2 (← expect? ':' rest)
  if 23 < hour ∨ 59 < minute ∨ 59 < second then none
  else
    match rest with
    | '.' :: after =>
        let digits := after.takeWhile Number.isDigit
        if digits.isEmpty then none
        else return (⟨hour, minute, second, microseconds digits⟩, after.dropWhile Number.isDigit)
    | _ => return (⟨hour, minute, second, 0⟩, rest)

/-- The distance from universal time that a text consists of; an empty text is none. -/
def offset? : List Char → Option (Option Int)
  | [] => some none
  | ['Z'] => some (some 0)
  | ['z'] => some (some 0)
  | sign :: rest => do
      if sign ≠ '+' ∧ sign ≠ '-' ∧ sign ≠ '|' then none
      let (hours, rest) ← fixedDigits? 2 rest
      let (minutes, rest) ← fixedDigits? 2 (← expect? ':' rest)
      if 23 < hours ∨ 59 < minutes ∨ !rest.isEmpty then none
      let distance : Int := hours * 60 + minutes
      return some (if sign = '-' then -distance else distance)

def dateTime? (text : List Char) : Option DateTime := do
  let (date, rest) ← spanDate? text
  match rest with
  | mark :: rest => do
      if mark ≠ 'T' ∧ mark ≠ 't' ∧ mark ≠ ' ' then none
      let (time, rest) ← spanTime? rest
      return ⟨date, time, ← offset? rest⟩
  | [] => none

def date? (text : List Char) : Option Date :=
  match spanDate? text with
  | some (date, []) => some date
  | _ => none

def time? (text : List Char) : Option Time :=
  match spanTime? text with
  | some (time, []) => some time
  | _ => none

end JavadocTags.Toml
