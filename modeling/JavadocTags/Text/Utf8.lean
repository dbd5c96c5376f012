import JavadocTags.Text.Lines

/-!
# Reading UTF-8

Bytes are read one after the other. A byte that begins a character fixes how many more belong to
it and in which range the next one lies; the ranges exclude overlong forms, surrogates and code
points beyond the last. A sequence that breaks off counts as one fault, and the byte at which it
breaks off is read afresh.
-/
namespace JavadocTags.Text.Utf8

/-- A character that is not complete: the code so far, how many bytes are missing, and the range of
the next one. -/
structure Partial where
  code : Nat
  missing : Nat
  low : Nat
  high : Nat
deriving DecidableEq, Repr

/-- What the first byte of a character says: that the character is complete, that more bytes
follow, or nothing, if no character begins with it. -/
inductive Opening where
  | complete (c : Char)
  | incomplete (p : Partial)
  | invalid
deriving DecidableEq, Repr

def opening (byte : UInt8) : Opening :=
  let n := byte.toNat
  if n < 0x80 then .complete (Char.ofNat n)
  else if n < 0xC2 then .invalid
  else if n < 0xE0 then .incomplete ⟨n - 0xC0, 1, 0x80, 0xBF⟩
  else if n = 0xE0 then .incomplete ⟨0, 2, 0xA0, 0xBF⟩
  else if n = 0xED then .incomplete ⟨0xD, 2, 0x80, 0x9F⟩
  else if n < 0xF0 then .incomplete ⟨n - 0xE0, 2, 0x80, 0xBF⟩
  else if n = 0xF0 then .incomplete ⟨0, 3, 0x90, 0xBF⟩
  else if n < 0xF4 then .incomplete ⟨n - 0xF0, 3, 0x80, 0xBF⟩
  else if n = 0xF4 then .incomplete ⟨4, 3, 0x80, 0x8F⟩
  else .invalid

/-- Adds the bits of a byte to a character. -/
def Partial.push (p : Partial) (byte : UInt8) : Partial :=
  ⟨p.code * 0x40 + byte.toNat % 0x40, p.missing - 1, 0x80, 0xBF⟩

/-- The characters of bytes, the first of which may be begun already; faults are `none`. -/
def decodeFrom : Option Partial → List UInt8 → List (Option Char)
  | none, [] => []
  | some _, [] => [none]
  | none, byte :: rest =>
      match opening byte with
      | .complete c => some c :: decodeFrom none rest
      | .incomplete p => decodeFrom (some p) rest
      | .invalid => none :: decodeFrom none rest
  | some p, byte :: rest =>
      if p.low ≤ byte.toNat ∧ byte.toNat ≤ p.high then
        let next := p.push byte
        if next.missing = 0 then some (Char.ofNat next.code) :: decodeFrom none rest
        else decodeFrom (some next) rest
      else
        match opening byte with
        | .complete c => none :: some c :: decodeFrom none rest
        | .incomplete q => none :: decodeFrom (some q) rest
        | .invalid => none :: none :: decodeFrom none rest

/-- The characters of bytes; faults are `none`. -/
def decode (bytes : List UInt8) : List (Option Char) :=
  decodeFrom none bytes

/-- The character that stands for a fault. -/
def replacement : Char := '\uFFFD'

/-- The text of a file, in which a replacement character stands for each fault. -/
def lenient (bytes : List UInt8) : List Char :=
  unifyLineEnds ((decode bytes).map (·.getD replacement))

/-- The text of a file that has no faults. -/
def strict? (bytes : List UInt8) : Option (List Char) :=
  ((decode bytes).mapM id).map unifyLineEnds

end JavadocTags.Text.Utf8
