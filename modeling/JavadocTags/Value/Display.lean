import JavadocTags.Unicode.Printable
import JavadocTags.Value.Basic

/-!
# Values in messages

`Value.quoted` is the form in which a message shows a value that it refuses; `Value.plain` differs
from it for texts, which stand without quotes, and for dates and times, which are written in the
ISO format. A value with a whole number of too many digits is not shown.
-/
namespace JavadocTags

namespace Date

/-- A date as `1979-05-27`. -/
def iso (d : Date) : String :=
  Number.padded 4 d.year ++ "-" ++ Number.padded 2 d.month ++ "-" ++ Number.padded 2 d.day

def parts (d : Date) : List Nat := [d.year, d.month, d.day]

end Date

namespace Time

/-- A time as `07:32:00`, with six decimals if it has a fraction. -/
def iso (t : Time) : String :=
  Number.padded 2 t.hour ++ ":" ++ Number.padded 2 t.minute ++ ":" ++ Number.padded 2 t.second
    ++ if t.microsecond = 0 then "" else "." ++ Number.padded 6 t.microsecond

/-- The parts of a time, without seconds and fraction when those are zero. -/
def parts (t : Time) : List Nat :=
  if t.microsecond ≠ 0 then [t.hour, t.minute, t.second, t.microsecond]
  else if t.second ≠ 0 then [t.hour, t.minute, t.second]
  else [t.hour, t.minute]

end Time

namespace DateTime

/-- A distance from universal time as `+01:00`. -/
def isoOffset (minutes : Int) : String :=
  (if minutes < 0 then "-" else "+") ++ Number.padded 2 (minutes.natAbs / 60) ++ ":"
    ++ Number.padded 2 (minutes.natAbs % 60)

def isoWith (separator : String) (t : DateTime) : String :=
  t.date.iso ++ separator ++ t.time.iso ++ (t.offset.map isoOffset).getD ""

def iso (t : DateTime) : String :=
  t.isoWith "T"

def parts (t : DateTime) : List Nat :=
  t.date.parts ++ t.time.parts

end DateTime

def commaSeparated (items : List String) : String :=
  String.intercalate ", " items

/-- A zone at a distance from universal time; a negative one counts back from the day before. -/
def quotedZone (minutes : Int) : String :=
  if minutes = 0 then "datetime.timezone.utc"
  else
    let seconds := (minutes * 60) % 86400
    let days := (minutes * 60) / 86400
    let arguments :=
      (if days = 0 then [] else ["days=" ++ toString days])
        ++ (if seconds = 0 then [] else ["seconds=" ++ toString seconds])
    "datetime.timezone(datetime.timedelta(" ++ commaSeparated arguments ++ "))"

namespace Value

mutual

/-- The form of a value that a message refuses. -/
def quoted : Value → String
  | null => "None"
  | bool b => if b then "True" else "False"
  | int n => toString n
  | float x => x.toText
  | string s => String.ofList (Text.quoted s.toList)
  | date d => "datetime.date(" ++ commaSeparated (d.parts.map toString) ++ ")"
  | time t => "datetime.time(" ++ commaSeparated (t.parts.map toString) ++ ")"
  | dateTime t =>
      let zone := t.offset.toList.map ("tzinfo=" ++ quotedZone ·)
      "datetime.datetime(" ++ commaSeparated (t.parts.map toString ++ zone) ++ ")"
  | list items => "[" ++ commaSeparated (quotedItems items) ++ "]"
  | table entries => "\x7b" ++ commaSeparated (quotedEntries entries) ++ "\x7d"

def quotedItems : List Value → List String
  | [] => []
  | item :: rest => quoted item :: quotedItems rest

def quotedEntries : List (String × Value) → List String
  | [] => []
  | (key, value) :: rest =>
      (String.ofList (Text.quoted key.toList) ++ ": " ++ quoted value) :: quotedEntries rest

end

/-- The form of a value inside the text of a message. -/
def plain : Value → String
  | string s => s
  | date d => d.iso
  | time t => t.iso
  | dateTime t => t.isoWith " "
  | value => value.quoted

mutual

/-- Whether a whole number in a value is too long for the value to be shown. -/
def isOverlong : Value → Bool
  | int n => Number.isOverlong n
  | list items => itemsOverlong items
  | table entries => entriesOverlong entries
  | _ => false

def itemsOverlong : List Value → Bool
  | [] => false
  | item :: rest => isOverlong item || itemsOverlong rest

def entriesOverlong : List (String × Value) → Bool
  | [] => false
  | (_, value) :: rest => isOverlong value || entriesOverlong rest

end

end Value

end JavadocTags
