import JavadocTags.Proofs.Text.LineEnds
import Mathlib.Tactic.IntervalCases

/-!
# Reading back an encoded text

The bytes of a text are those of its characters, one after the other. The first byte of a character
of several bytes says how many more there are; with their lower six bits each of them adds to the
code, which in the end is that of the character.
-/
namespace JavadocTags.Text.Utf8

/-! ## The bytes of a text -/

theorem toList_loop (bytes : ByteArray) (i : Nat) (done : List UInt8) :
    ByteArray.toList.loop bytes i done = done.reverse ++ bytes.data.toList.drop i := by
  fun_induction ByteArray.toList.loop bytes i done with
  | case1 i done h ih =>
      have hlength : i < bytes.data.toList.length := by simpa using h
      have hget : bytes.get! i = bytes.data.toList[i] := by
        rw [ByteArray.get!, Array.getElem!_eq_getD, Array.getElem_toList]
        exact Array.getElem_eq_getD _ |>.symm
      rw [ih, List.reverse_cons, List.append_assoc, List.singleton_append, hget,
        List.getElem_cons_drop]
  | case2 i done h =>
      have hlength : bytes.data.toList.length ≤ i := by simpa using h
      rw [List.drop_eq_nil_of_le hlength, List.append_nil]

@[simp] theorem toList_toUTF8 (text : String) :
    text.toUTF8.toList = text.toList.flatMap String.utf8EncodeChar := by
  rw [String.toUTF8_eq_toByteArray, ← String.utf8Encode_toList, List.utf8Encode,
    ByteArray.toList, toList_loop, List.reverse_nil, List.nil_append, List.drop_zero,
    List.toList_data_toByteArray]

/-! ## The bytes of a character -/

theorem toNat_byte {n : Nat} (h : n < 256) : (UInt8.ofNat n).toNat = n :=
  UInt8.toNat_ofNat_of_lt' h

section Opening
variable {n : Nat}

theorem opening_one (h : n < 0x80) : opening (UInt8.ofNat n) = .complete (Char.ofNat n) := by
  rw [opening, toNat_byte (by omega)]
  exact if_pos h

theorem opening_two (hlow : 2 ≤ n) (hhigh : n < 32) :
    opening (UInt8.ofNat (n + 192)) = .incomplete ⟨n, 1, 0x80, 0xBF⟩ := by
  interval_cases n <;> rfl

/-- The two ranges for the second byte exclude overlong forms and surrogates. -/
theorem opening_three (h : n < 16) :
    opening (UInt8.ofNat (n + 224)) =
      .incomplete ⟨n, 2, if n = 0 then 0xA0 else 0x80, if n = 0xD then 0x9F else 0xBF⟩ := by
  interval_cases n <;> rfl

/-- The two ranges for the second byte exclude overlong forms and codes beyond the last one. -/
theorem opening_four (h : n < 5) :
    opening (UInt8.ofNat (n + 240)) =
      .incomplete ⟨n, 3, if n = 0 then 0x90 else 0x80, if n = 4 then 0x8F else 0xBF⟩ := by
  interval_cases n <;> rfl

end Opening

theorem decodeFrom_incomplete {byte : UInt8} {p : Partial} (h : opening byte = .incomplete p)
    (rest : List UInt8) : decodeFrom none (byte :: rest) = decodeFrom (some p) rest := by
  rw [decodeFrom, h]

section Further
variable {n code missing low high : Nat}

/-- A further byte with the lower six bits of a code adds them to the character. -/
theorem decodeFrom_further (hlow : low ≤ n % 64 + 128) (hhigh : n % 64 + 128 ≤ high)
    (rest : List UInt8) :
    decodeFrom (some ⟨code, missing, low, high⟩) (UInt8.ofNat (n % 64 + 128) :: rest) =
      if missing - 1 = 0 then some (Char.ofNat (code * 64 + n % 64)) :: decodeFrom none rest
      else decodeFrom (some ⟨code * 64 + n % 64, missing - 1, 0x80, 0xBF⟩) rest := by
  have hbyte : (UInt8.ofNat (n % 64 + 128)).toNat = n % 64 + 128 := toNat_byte (by omega)
  have hbits : (n % 64 + 128) % 64 = n % 64 := by omega
  rw [decodeFrom, if_pos (by rw [hbyte]; exact ⟨hlow, hhigh⟩)]
  simp only [Partial.push, hbyte, hbits]

theorem decodeFrom_last (hlow : low ≤ n % 64 + 128) (hhigh : n % 64 + 128 ≤ high)
    (rest : List UInt8) :
    decodeFrom (some ⟨code, 1, low, high⟩) (UInt8.ofNat (n % 64 + 128) :: rest) =
      some (Char.ofNat (code * 64 + n % 64)) :: decodeFrom none rest := by
  rw [decodeFrom_further hlow hhigh, if_pos rfl]

end Further

theorem decodeFrom_utf8EncodeChar (c : Char) (rest : List UInt8) :
    decodeFrom none (String.utf8EncodeChar c ++ rest) = some c :: decodeFrom none rest := by
  have hvalid : c.toNat < 0xD800 ∨ 0xDFFF < c.toNat ∧ c.toNat < 0x110000 := c.valid
  have hchar : Char.ofNat c.toNat = c := Char.ofNat_toNat c
  have hval : c.val.toNat = c.toNat := rfl
  rw [String.utf8EncodeChar, hval]
  generalize c.toNat = n at hvalid hchar
  -- One case for each length. That the code is valid and needs this length puts the second byte
  -- into the range that the first one leaves it.
  by_cases hone : n ≤ 127
  · simp only [hone, if_true, List.singleton_append]
    rw [decodeFrom, opening_one (by omega), hchar]
  by_cases htwo : n ≤ 2047
  · have hfirst : n / 64 % 32 = n / 64 := by omega
    have hcode : n / 64 * 64 + n % 64 = n := by omega
    simp only [hone, htwo, if_true, if_false, List.cons_append, List.nil_append, hfirst]
    rw [decodeFrom_incomplete (opening_two (by omega) (by omega)),
      decodeFrom_last (by omega) (by omega), hcode, hchar]
  by_cases hthree : n ≤ 65535
  · have hfirst : n / 4096 % 16 = n / 4096 := by omega
    have hcode : (n / 4096 * 64 + n / 64 % 64) * 64 + n % 64 = n := by omega
    simp only [hone, htwo, hthree, if_true, if_false, List.cons_append, List.nil_append, hfirst]
    rw [decodeFrom_incomplete (opening_three (by omega)),
      decodeFrom_further (by split <;> omega) (by split <;> omega), if_neg (by decide),
      decodeFrom_last (by omega) (by omega), hcode, hchar]
  · have hfirst : n / 262144 % 8 = n / 262144 := by omega
    have hcode : ((n / 262144 * 64 + n / 4096 % 64) * 64 + n / 64 % 64) * 64 + n % 64 = n := by
      omega
    simp only [hone, htwo, hthree, if_false, List.cons_append, List.nil_append, hfirst]
    rw [decodeFrom_incomplete (opening_four (by omega)),
      decodeFrom_further (by split <;> omega) (by split <;> omega), if_neg (by decide),
      decodeFrom_further (by omega) (by omega), if_neg (by decide),
      decodeFrom_last (by omega) (by omega), hcode, hchar]

/-! ## The text of its bytes -/

@[simp]
theorem decode_toUTF8 (text : String) : decode text.toUTF8.toList = text.toList.map some := by
  rw [toList_toUTF8, decode]
  induction text.toList with
  | nil => rfl
  | cons c rest ih => rw [List.flatMap_cons, decodeFrom_utf8EncodeChar, ih, List.map_cons]

/-- A file with the bytes of a text in which lines end with line feeds has this text. -/
theorem strict?_toUTF8 {text : String} (h : '\r' ∉ text.toList) :
    strict? text.toUTF8.toList = some text.toList := by
  have hchars : (text.toList.map some).mapM id = some text.toList := by
    rw [List.mapM_map]
    exact List.mapM_pure.trans (congrArg some (List.map_id' text.toList))
  rw [strict?, decode_toUTF8, hchars, Option.map_some, unifyLineEnds_of_not_mem h]

end JavadocTags.Text.Utf8
