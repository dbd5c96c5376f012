/-!
# Decimal digits

Reading and writing natural numbers in decimal.
-/
namespace JavadocTags.Number

/-- The value of an ASCII digit. -/
def digitValue? (c : Char) : Option Nat :=
  if '0' ≤ c ∧ c ≤ '9' then some (c.toNat - '0'.toNat) else none

/-- The value of an ASCII digit of a base up to sixteen. -/
def digitInBase? (base : Nat) (c : Char) : Option Nat :=
  let value? :=
    if '0' ≤ c ∧ c ≤ '9' then some (c.toNat - '0'.toNat)
    else if 'a' ≤ c ∧ c ≤ 'f' then some (c.toNat - 'a'.toNat + 10)
    else if 'A' ≤ c ∧ c ≤ 'F' then some (c.toNat - 'A'.toNat + 10)
    else none
  value?.filter (· < base)

/-- The number that digits of a base stand for; other characters count as zero. -/
def ofDigits (base : Nat) (digits : List Char) : Nat :=
  digits.foldl (fun n c => n * base + (digitInBase? base c).getD 0) 0

def isDigit (c : Char) : Bool :=
  (digitValue? c).isSome

/-- The greatest number of decimal digits that is read or written as a whole number. -/
def wholeDigitLimit : Nat := 4300

/-- Whether a whole number has more decimal digits than are written. -/
def isOverlong (n : Int) : Bool :=
  Nat.pow 10 wholeDigitLimit ≤ n.natAbs

/-- A number written with zeros in front up to a width. -/
def padded (width n : Nat) : String :=
  let digits := toString n
  String.ofList (List.replicate (width - digits.length) '0') ++ digits

/-- The lowercase hexadecimal digit of a number below sixteen. -/
def hexDigit (n : Nat) : Char :=
  if n < 10 then Char.ofNat ('0'.toNat + n) else Char.ofNat ('a'.toNat + (n - 10))

/-- A number in lowercase hexadecimal with at least `width` digits. -/
def hexPadded : Nat → Nat → List Char
  | 0, _ => []
  | width + 1, n => hexPadded width (n / 16) ++ [hexDigit (n % 16)]

end JavadocTags.Number
