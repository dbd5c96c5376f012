import JavadocTags.Number.Decimal

/-!
# Binary floating point numbers of 64 bits

A finite number is a sign, a significand below 2^53 and a power of two. Reading a decimal rounds to
the nearest such number, a tie to the even significand. Writing gives the fewest digits that read
back as the same number and, of those, the nearest to it. All of it is exact arithmetic on natural
numbers.
-/
namespace JavadocTags.Number

/-- A floating point number. A finite one has the value `significand * 2 ^ exponent`, with the sign
in front; the significand has 53 bits unless the exponent is the least one. -/
inductive Binary64 where
  | nan
  | infinite (negative : Bool)
  | finite (negative : Bool) (significand : Nat) (exponent : Int)
deriving DecidableEq, Repr, Inhabited

namespace Binary64

def leastExponent : Int := -1074

def greatestExponent : Int := 971

def significandLimit : Nat := 9007199254740992

/-- `num / den` rounded to the nearest natural number, a tie to the even one. -/
def roundQuotient (num den : Nat) : Nat :=
  let q := num / den
  let r := num % den
  if 2 * r < den then q else if den < 2 * r then q + 1 else if q % 2 = 0 then q else q + 1

/-- `num * 2 ^ shift / den` as a numerator and a denominator. -/
def shiftFraction (num den : Nat) (shift : Int) : Nat × Nat :=
  if 0 ≤ shift then (num * Nat.pow 2 shift.toNat, den) else (num, den * Nat.pow 2 (-shift).toNat)

/-- The finite or infinite number nearest to the positive fraction `num / den`. -/
def ofFraction (negative : Bool) (num den : Nat) : Binary64 :=
  let estimate : Int := (num.log2 : Int) - den.log2 - 53
  let exponent := max estimate leastExponent
  let rounded (e : Int) : Nat :=
    let (n, d) := shiftFraction num den (-e)
    roundQuotient n d
  let first := rounded exponent
  let (significand, exponent) :=
    if first < significandLimit then (first, exponent)
    else
      let second := rounded (exponent + 1)
      if second < significandLimit then (second, exponent + 1) else (second / 2, exponent + 2)
  if greatestExponent < exponent then infinite negative else finite negative significand exponent

/-- The number nearest to `digits * 10 ^ scale`. -/
def ofDecimal (negative : Bool) (digits : Nat) (scale : Int) : Binary64 :=
  let magnitude : Int := (toString digits).length + scale
  if digits = 0 ∨ magnitude < -330 then finite negative 0 leastExponent
  else if 330 < magnitude then infinite negative
  else if 0 ≤ scale then ofFraction negative (digits * Nat.pow 10 scale.toNat) 1
  else ofFraction negative digits (Nat.pow 10 (-scale).toNat)

/-- The number of decimal digits before the point of the positive fraction `num / den`, counted
below zero when there are zeros just after the point. -/
def decimalPoint (num den : Nat) : Int :=
  let estimate : Int := ((toString num).length : Int) - (toString den).length
  let reaches (e : Int) : Bool :=
    if 0 ≤ e then den * Nat.pow 10 e.toNat ≤ num else den ≤ num * Nat.pow 10 (-e).toNat
  if reaches estimate then estimate + 1 else estimate

/-- The decimal of `count` digits nearest to `num / den` that reads back as `target`, when there is
one; the point stands after the first `point` digits. -/
def decimalOfLength? (target : Binary64) (num den : Nat) (point : Int) (count : Nat) :
    Option (Nat × Int) :=
  let scale := point - count
  let (n, d) : Nat × Nat :=
    if 0 ≤ scale then (num, den * Nat.pow 10 scale.toNat)
    else (num * Nat.pow 10 (-scale).toNat, den)
  let below := n / d
  let nearest := roundQuotient n d
  let other := if nearest = below then below + 1 else below
  if ofDecimal false nearest scale = target then some (nearest, scale)
  else if ofDecimal false other scale = target then some (other, scale)
  else none

/-- The shortest decimal `digits * 10 ^ scale` that reads back as the finite positive number. -/
def shortestDecimal (significand : Nat) (exponent : Int) : Nat × Int :=
  let (num, den) := shiftFraction significand 1 exponent
  let point := decimalPoint num den
  let target := finite false significand exponent
  let counts := (List.range 17).map (· + 1)
  (counts.findSome? (decimalOfLength? target num den point)).getD (0, 0)

/-- Decimal digits without the zeros at the end, and how many of those there were. -/
def stripZeros (digits : List Char) : List Char × Nat :=
  let stripped := (digits.reverse.dropWhile (· == '0')).reverse
  (stripped, digits.length - stripped.length)

/-- The text of a number: positional from 0.0001 up to 10^16, else with an exponent of at least two
digits. A positional number always has a digit after the point. -/
def toText : Binary64 → String
  | nan => "nan"
  | infinite negative => if negative then "-inf" else "inf"
  | finite negative significand exponent =>
      let sign := if negative then "-" else ""
      if significand = 0 then sign ++ "0.0"
      else
        let (value, scale) := shortestDecimal significand exponent
        let (digits, dropped) := stripZeros (toString value).toList
        let point : Int := digits.length + scale + dropped
        if -4 < point ∧ point ≤ 16 then
          if point ≤ 0 then
            sign ++ "0." ++ String.ofList (List.replicate (-point).toNat '0' ++ digits)
          else
            let whole := digits.take point.toNat
            let padding := List.replicate (point.toNat - whole.length) '0'
            let fraction := digits.drop point.toNat
            let fraction := if fraction.isEmpty then ['0'] else fraction
            sign ++ String.ofList (whole ++ padding ++ '.' :: fraction)
        else
          let fraction := digits.drop 1
          let mantissa :=
            digits.take 1 ++ if fraction.isEmpty then [] else '.' :: fraction
          let power := point - 1
          sign ++ String.ofList mantissa ++ "e" ++ (if power < 0 then "-" else "+")
            ++ padded 2 power.natAbs

end Binary64

end JavadocTags.Number
