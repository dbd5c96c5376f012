import JavadocTags.Value.Basic

/-!
# Reading JSON

A reader for JSON texts that also takes the numbers `NaN`, `Infinity` and `-Infinity`. Of an object
with a repeated key the last value counts. Control characters in strings are refused. Half of a
surrogate pair without the other becomes the replacement character. A whole number beyond the limit
of digits ends the reading where it stands, whatever follows it. How deep lists and objects may lie
in one another is not limited.
-/
namespace JavadocTags.Json

/-- Why a text is not read. -/
inductive Fault where
  | malformed
  | integerTooLong
deriving DecidableEq, Repr

/-- What is there, or else the text is malformed. -/
def orMalformed {α : Type} : Option α → Except Fault α
  | some a => .ok a
  | none => .error .malformed

def skipSpace (text : List Char) : List Char :=
  text.dropWhile fun c => c == ' ' || c == '\t' || c == '\n' || c == '\r'

/-- Four hexadecimal digits and what follows them. -/
def readUnit? : List Char → Option (Nat × List Char)
  | a :: b :: c :: d :: rest =>
      if [a, b, c, d].all fun x => (Number.digitInBase? 16 x).isSome then
        some (Number.ofDigits 16 [a, b, c, d], rest)
      else none
  | _ => none

/-- The character that an escape stands for after its `\u`, and what follows it. -/
def readEscapedUnit? (text : List Char) : Option (Char × List Char) := do
  let (high, rest) ← readUnit? text
  if 0xD800 ≤ high ∧ high < 0xDC00 then
    match rest with
    | '\\' :: 'u' :: after =>
        match readUnit? after with
        | some (low, rest') =>
            if 0xDC00 ≤ low ∧ low < 0xE000 then
              some (Char.ofNat (0x10000 + (high - 0xD800) * 0x400 + (low - 0xDC00)), rest')
            else some ('\uFFFD', rest)
        | none => some ('\uFFFD', rest)
    | _ => some ('\uFFFD', rest)
  else if 0xDC00 ≤ high ∧ high < 0xE000 then some ('\uFFFD', rest)
  else some (Char.ofNat high, rest)

/-- The character that a single letter stands for after a backslash. -/
def escapedLetter? : Char → Option Char
  | '"' => some '"'
  | '\\' => some '\\'
  | '/' => some '/'
  | 'b' => some '\x08'
  | 'f' => some '\x0c'
  | 'n' => some '\n'
  | 'r' => some '\r'
  | 't' => some '\t'
  | _ => none

/-- The text of a string after its opening quote, and what follows the closing one. -/
def readString? : Nat → List Char → List Char → Option (String × List Char)
  | 0, _, _ => none
  | _ + 1, _, [] => none
  | fuel + 1, done, c :: rest =>
      if c = '"' then some (String.ofList done.reverse, rest)
      else if c = '\\' then
        match rest with
        | 'u' :: after =>
            match readEscapedUnit? after with
            | some (u, after') => readString? fuel (u :: done) after'
            | none => none
        | e :: after =>
            match escapedLetter? e with
            | some u => readString? fuel (u :: done) after
            | none => none
        | [] => none
      else if c.toNat < 0x20 then none
      else readString? fuel (c :: done) rest

/-- A whole number without superfluous zeros, and what follows it. -/
def readWhole? (text : List Char) : Option (List Char × List Char) :=
  match text with
  | '0' :: rest => some (['0'], rest)
  | _ =>
      match text.takeWhile Number.isDigit with
      | [] => none
      | digits => some (digits, text.dropWhile Number.isDigit)

def readFraction (text : List Char) : List Char × List Char :=
  match text with
  | '.' :: rest =>
      match rest.takeWhile Number.isDigit with
      | [] => ([], text)
      | digits => (digits, rest.dropWhile Number.isDigit)
  | _ => ([], text)

def readExponent (text : List Char) : Option Int × List Char :=
  match text with
  | e :: rest =>
      if e = 'e' ∨ e = 'E' then
        let (negative, digitsAt) :=
          match rest with
          | '-' :: after => (true, after)
          | '+' :: after => (false, after)
          | _ => (false, rest)
        match digitsAt.takeWhile Number.isDigit with
        | [] => (none, text)
        | digits =>
            let n : Int := Number.ofDigits 10 digits
            (some (if negative then -n else n), digitsAt.dropWhile Number.isDigit)
      else (none, text)
  | [] => (none, text)

/-- The number of a sign, of the digits before and after a point and of an exponent. -/
def numberOf (negative : Bool) (whole fraction : List Char) (exponent : Option Int) :
    Except Fault Value :=
  if fraction.isEmpty ∧ exponent.isNone then
    if Number.wholeDigitLimit < whole.length then .error .integerTooLong
    else
      let n : Int := Number.ofDigits 10 whole
      .ok (.int (if negative then -n else n))
  else
    let digits := Number.ofDigits 10 (whole ++ fraction)
    let scale := exponent.getD 0 - fraction.length
    .ok (.float (Number.Binary64.ofDecimal negative digits scale))

/-- A number behind its sign and what follows it. -/
def readUnsigned (negative : Bool) (text : List Char) : Except Fault (Value × List Char) := do
  let (whole, afterWhole) ← orMalformed (readWhole? text)
  let (fraction, afterFraction) := readFraction afterWhole
  let (exponent, rest) := readExponent afterFraction
  let number ← numberOf negative whole fraction exponent
  return (number, rest)

def readNumber : List Char → Except Fault (Value × List Char)
  | '-' :: rest => readUnsigned true rest
  | text => readUnsigned false text

/-- The words that stand for values. -/
def words : List (List Char × Value) :=
  [("null".toList, .null), ("true".toList, .bool true), ("false".toList, .bool false),
    ("NaN".toList, .float .nan), ("Infinity".toList, .float (.infinite false)),
    ("-Infinity".toList, .float (.infinite true))]

def readWord? (text : List Char) : Option (Value × List Char) :=
  words.findSome? fun (word, value) =>
    if word.isPrefixOf text then some (value, text.drop word.length) else none

mutual

/-- A value and what follows it; the text begins with no white space. -/
def readValue : Nat → List Char → Except Fault (Value × List Char)
  | 0, _ => .error .malformed
  | fuel + 1, text =>
      match text with
      | '"' :: rest => do
          let (s, after) ← orMalformed (readString? (rest.length + 1) [] rest)
          return (.string s, after)
      | '[' :: rest =>
          match skipSpace rest with
          | ']' :: after => .ok (.list [], after)
          | start => do
              let (items, after) ← readItems fuel start
              return (.list items, after)
      | '{' :: rest =>
          match skipSpace rest with
          | '}' :: after => .ok (.table [], after)
          | start => do
              let (members, after) ← readMembers fuel start
              return (.table (Table.ofEntries members), after)
      | _ =>
          match readWord? text with
          | some word => .ok word
          | none => readNumber text

def readItems : Nat → List Char → Except Fault (List Value × List Char)
  | 0, _ => .error .malformed
  | fuel + 1, text => do
      let (item, afterItem) ← readValue fuel text
      match skipSpace afterItem with
      | ']' :: rest => return ([item], rest)
      | ',' :: rest =>
          let (items, after) ← readItems fuel (skipSpace rest)
          return (item :: items, after)
      | _ => throw .malformed

def readMembers : Nat → List Char → Except Fault (List (String × Value) × List Char)
  | 0, _ => .error .malformed
  | fuel + 1, text => do
      match text with
      | '"' :: keyStart =>
          let (key, afterKey) ← orMalformed (readString? (keyStart.length + 1) [] keyStart)
          match skipSpace afterKey with
          | ':' :: valueStart =>
              let (value, afterValue) ← readValue fuel (skipSpace valueStart)
              match skipSpace afterValue with
              | '}' :: rest => return ([(key, value)], rest)
              | ',' :: rest =>
                  let (members, after) ← readMembers fuel (skipSpace rest)
                  return ((key, value) :: members, after)
              | _ => throw .malformed
          | _ => throw .malformed
      | _ => throw .malformed

end

/-- The value of a JSON text. Two turns for each character are enough, since a list or an object
takes two turns and has an opening character. -/
def read (text : List Char) : Except Fault Value := do
  let (value, rest) ← readValue (2 * text.length + 1) (skipSpace text)
  if (skipSpace rest).isEmpty then return value else throw .malformed

end JavadocTags.Json
