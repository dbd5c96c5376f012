import JavadocTags.Number.Binary64
import JavadocTags.Text.Lines
import JavadocTags.Unicode.Numeric

/-!
# Numbers as they are written by hand

Blanks may stand around a number, a sign before it and single underscores between its digits, and
the digits may be those of any script.
-/
namespace JavadocTags.Number

/-- The value of a decimal digit of any script. -/
def decimalValue? (c : Char) : Option Nat :=
  match Unicode.decimalRanges.find? fun (lo, hi) => lo ≤ c.toNat ∧ c.toNat ≤ hi with
  | some (lo, _) => some ((c.toNat - lo) % 10)
  | none => none

/-- The value of a digit of a base, of any script for the values below ten. -/
def looseDigit? (base : Nat) (c : Char) : Option Nat :=
  ((digitInBase? 16 c).or (decimalValue? c)).filter (· < base)

/-- The values of digits between which single underscores may stand. -/
def looseDigits? (base : Nat) : List Char → Option (List Nat)
  | [] => none
  | [c] => (looseDigit? base c).map ([·])
  | c :: '_' :: rest => do
      let d ← looseDigit? base c
      let ds ← looseDigits? base rest
      return d :: ds
  | c :: rest => do
      let d ← looseDigit? base c
      let ds ← looseDigits? base rest
      return d :: ds

def splitSign : List Char → Bool × List Char
  | '-' :: rest => (true, rest)
  | '+' :: rest => (false, rest)
  | text => (false, text)

/-- Drops the mark of a base, such as `0x`, with an underscore after it. -/
def dropBaseMark (base : Nat) (text : List Char) : List Char :=
  match text with
  | '0' :: letter :: rest =>
      let marked :=
        (base = 16 ∧ (letter = 'x' ∨ letter = 'X')) ∨ (base = 8 ∧ (letter = 'o' ∨ letter = 'O'))
          ∨ (base = 2 ∧ (letter = 'b' ∨ letter = 'B'))
      if marked then
        match rest with
        | '_' :: digits => digits
        | digits => digits
      else text
  | _ => text

/-- A whole number. -/
def looseInt? (base : Nat) (text : List Char) : Option Int := do
  let (negative, digits) := splitSign (Text.trim text)
  let ds ← looseDigits? base (dropBaseMark base digits)
  if base = 10 ∧ wholeDigitLimit < ds.length then none
  else
    let n : Int := (ds.foldl (fun n d => n * base + d) 0 : Nat)
    return if negative then -n else n

/-- The values of the digits at the front of a text, and what follows them. -/
def spanDecimals (text : List Char) : List Nat × List Char :=
  (text.takeWhile Unicode.isDecimal |>.filterMap decimalValue?,
    text.dropWhile Unicode.isDecimal)

/-- The exponent that a text consists of; an empty text is none. -/
def looseExponent? (text : List Char) : Option Int :=
  match text with
  | [] => some 0
  | e :: rest =>
      if e = 'e' ∨ e = 'E' then
        let (negative, digits) := splitSign rest
        let (ds, after) := spanDecimals digits
        if ds.isEmpty ∨ !after.isEmpty then none
        else
          let n : Int := (ds.foldl (fun n d => n * 10 + d) 0 : Nat)
          some (if negative then -n else n)
      else none

/-- A floating point number, or a word for infinity or for no number. No underscores are read. -/
def looseFloat? (text : List Char) : Option Binary64 := do
  let (negative, rest) := splitSign (Text.trim text)
  let word := String.ofList (rest.map Char.toLower)
  if word = "inf" ∨ word = "infinity" then return .infinite negative
  else if word = "nan" then return .nan
  else
    let (whole, afterWhole) := spanDecimals rest
    let (fraction, afterFraction) :=
      match afterWhole with
      | '.' :: after => spanDecimals after
      | after => ([], after)
    let exponent ← looseExponent? afterFraction
    if whole.isEmpty ∧ fraction.isEmpty then none
    else
      let digits := (whole ++ fraction).foldl (fun n d => n * 10 + d) 0
      return .ofDecimal negative digits (exponent - fraction.length)

end JavadocTags.Number
