import Mathlib
import JavadocTags.Java.Token

/-!
# Words

A word is read as one token up to the first character that does not continue it. An ASCII letter,
digit, underscore or dollar sign continues a word, and all of them but the digits start one.
-/
namespace JavadocTags.Java

/-- A letter, digit, underscore or dollar sign of ASCII. -/
def isNameChar (c : Char) : Bool :=
  c.isAlphanum || c == '_' || c == '$'

/-- An ASCII name does not begin with a digit. -/
structure AsciiName (name : List Char) : Prop where
  ne_nil : name ≠ []
  chars : ∀ c ∈ name, isNameChar c = true
  head : ∀ c ∈ name.head?, c.isDigit = false

section Characters
variable {c : Char}

theorem toNat_of_isAlpha (h : c.isAlpha = true) :
    (0x41 ≤ c.toNat ∧ c.toNat ≤ 0x5A) ∨ (0x61 ≤ c.toNat ∧ c.toNat ≤ 0x7A) := by
  simp only [Char.isAlpha, Char.isUpper, Char.isLower, Bool.or_eq_true, Bool.and_eq_true,
    decide_eq_true_eq, ge_iff_le, UInt32.le_iff_toNat_le] at h
  exact h

theorem toNat_of_isDigit (h : c.isDigit = true) : 0x30 ≤ c.toNat ∧ c.toNat ≤ 0x39 := by
  simp only [Char.isDigit, Bool.and_eq_true, decide_eq_true_eq, ge_iff_le,
    UInt32.le_iff_toNat_le] at h
  exact h

theorem isLetter_of_isAlpha (h : c.isAlpha = true) : Unicode.isLetter c = true := by
  obtain ⟨rest, hranges⟩ : ∃ rest,
      Unicode.letterRanges = (0x41, 0x5A) :: (0x61, 0x7A) :: rest := ⟨_, rfl⟩
  rw [Unicode.isLetter, hranges]
  rcases toNat_of_isAlpha h with ⟨hlow, hhigh⟩ | ⟨hlow, hhigh⟩
  · rw [Unicode.Ranges.contains, if_neg (by omega), if_pos hhigh]
  · rw [Unicode.Ranges.contains, if_neg (by omega), if_neg (by omega), Unicode.Ranges.contains,
      if_neg (by omega), if_pos hhigh]

theorem isDecimal_of_isDigit (h : c.isDigit = true) : Unicode.isDecimal c = true := by
  obtain ⟨rest, hranges⟩ : ∃ rest, Unicode.decimalRanges = (0x30, 0x39) :: rest := ⟨_, rfl⟩
  rw [Unicode.isDecimal, hranges]
  obtain ⟨hlow, hhigh⟩ := toNat_of_isDigit h
  rw [Unicode.Ranges.contains, if_neg (by omega), if_pos hhigh]

theorem continuesWord_of_isNameChar (h : isNameChar c = true) : continuesWord c = true := by
  unfold isNameChar Char.isAlphanum at h
  simp only [Bool.or_eq_true, beq_iff_eq] at h
  rcases h with ((h | h) | h) | h
  · simp [continuesWord, Unicode.isWord, Unicode.isAlphanumeric, isLetter_of_isAlpha h]
  · simp [continuesWord, Unicode.isWord, Unicode.isAlphanumeric, Unicode.isNumeric,
      isDecimal_of_isDigit h]
  · simp [continuesWord, Unicode.isWord, h]
  · simp [continuesWord, h]

theorem isBlank_of_startsWord (h : startsWord c = true) : Text.isBlank c = false := by
  simp only [startsWord, Bool.or_eq_true, beq_iff_eq] at h
  rcases h with (h | rfl) | rfl
  · have hcode := toNat_of_isAlpha h
    simp only [Text.isBlank, Bool.or_eq_false_iff, Bool.and_eq_false_iff, decide_eq_false_iff_not,
      beq_eq_false_iff_ne]
    omega
  · rfl
  · rfl

end Characters

theorem AsciiName.exists_cons {name : List Char} (h : AsciiName name) :
    ∃ c rest, name = c :: rest ∧ startsWord c = true ∧ ∀ d ∈ rest, continuesWord d = true := by
  obtain ⟨hne, hchars, hhead⟩ := h
  cases name with
  | nil => exact absurd rfl hne
  | cons c rest =>
      rw [List.forall_mem_cons] at hchars
      refine ⟨c, rest, rfl, ?_, fun d hd => continuesWord_of_isNameChar (hchars.2 d hd)⟩
      have hdigit := hhead c rfl
      have hchar := hchars.1
      simp only [isNameChar, Char.isAlphanum, hdigit, Bool.or_false] at hchar
      exact hchar

theorem AsciiName.isIdentifier {name : List Char} (h : AsciiName name) :
    isIdentifier (String.ofList name) = true := by
  obtain ⟨c, rest, rfl, hstart, _⟩ := h.exists_cons
  simp only [Java.isIdentifier, String.toList_ofList]
  simp only [startsWord, Bool.or_eq_true] at hstart ⊢
  rcases hstart with (hstart | hstart) | hstart
  · exact .inl (.inl (isLetter_of_isAlpha hstart))
  · exact .inl (.inr hstart)
  · exact .inr hstart

theorem tokensOfLine_word {line column : Nat} {first next : Char} {word rest : List Char}
    (hfirst : startsWord first = true) (hword : ∀ c ∈ word, continuesWord c = true)
    (hnext : continuesWord next = false) :
    tokensOfLine line column (first :: (word ++ next :: rest)) =
      ⟨String.ofList (first :: word), line, column⟩
        :: tokensOfLine line (column + 1 + word.length) (next :: rest) := by
  have hstop : ¬ continuesWord next = true := by
    rw [hnext]
    exact Bool.false_ne_true
  rw [tokensOfLine, isBlank_of_startsWord hfirst]
  simp only [Bool.false_eq_true, if_false, splitLexeme, if_pos hfirst]
  rw [List.takeWhile_append_of_pos hword, List.dropWhile_append_of_pos hword,
    List.takeWhile_cons_of_neg hstop, List.dropWhile_cons_of_neg hstop, List.append_nil]

end JavadocTags.Java
