import JavadocTags.Unicode.Numeric
import JavadocTags.Text.Lines

/-!
# Classes of characters that do not meet

A class of characters is a table of ranges. Two tables are compared in one pass, which shows that
no blank is a word character and no letter is a decimal digit.
-/
namespace JavadocTags.Unicode

namespace Ranges

/-- Each range of the first set lies behind the ranges of the second one that end before it, and
in front of the next. -/
def apart : Ranges → Ranges → Bool
  | [], _ => true
  | r :: rs, ss =>
      match ss.dropWhile (·.2 < r.1) with
      | [] => true
      | s :: ss => decide (r.2 < s.1) && apart rs (s :: ss)

theorem of_contains_cons {r : Nat × Nat} {rs : Ranges} {n : Nat}
    (h : contains (r :: rs) n = true) : r.1 ≤ n ∧ (n ≤ r.2 ∨ rs.contains n = true) := by
  rw [contains] at h
  by_cases hlow : n < r.1
  · rw [if_pos hlow] at h
    cases h
  · rw [if_neg hlow] at h
    refine ⟨Nat.le_of_not_lt hlow, ?_⟩
    by_cases hhigh : n ≤ r.2
    · exact .inl hhigh
    · rw [if_neg hhigh] at h
      exact .inr h

theorem contains_dropWhile {rs : Ranges} {low n : Nat} (hlow : low ≤ n)
    (h : rs.contains n = true) : contains (rs.dropWhile (·.2 < low)) n = true := by
  induction rs with
  | nil => exact h
  | cons r rs ih =>
      by_cases hr : r.2 < low
      · rw [List.dropWhile_cons_of_pos (by simpa using hr)]
        rcases (of_contains_cons h).2 with hhigh | hrest
        · omega
        · exact ih hrest
      · rwa [List.dropWhile_cons_of_neg (by simpa using hr)]

theorem contains_eq_false_of_apart {rs ss : Ranges} (hapart : apart rs ss = true) {n : Nat}
    (h : rs.contains n = true) : ss.contains n = false := by
  rw [Bool.eq_false_iff]
  intro hother
  induction rs generalizing ss with
  | nil => cases h
  | cons r rs ih =>
      obtain ⟨hlow, hrange⟩ := of_contains_cons h
      have hnext := contains_dropWhile hlow hother
      rw [apart] at hapart
      split at hapart
      · rename_i hnil
        rw [hnil] at hnext
        cases hnext
      · rename_i s ss' hcons
        rw [hcons] at hnext
        rw [Bool.and_eq_true, decide_eq_true_eq] at hapart
        rcases hrange with hhigh | hrest
        · have hstart := (of_contains_cons hnext).1
          omega
        · exact ih hapart.2 hrest hnext

end Ranges

def blankRanges : Ranges :=
  [(0x9, 0xD), (0x1C, 0x20), (0x85, 0x85), (0xA0, 0xA0), (0x1680, 0x1680), (0x2000, 0x200A),
   (0x2028, 0x2029), (0x202F, 0x202F), (0x205F, 0x205F), (0x3000, 0x3000)]

theorem contains_blankRanges {c : Char} (h : Text.isBlank c = true) :
    blankRanges.contains c.toNat = true := by
  simp only [Text.isBlank, Bool.or_eq_true, Bool.and_eq_true, decide_eq_true_eq, beq_iff_eq] at h
  simp only [blankRanges, Ranges.contains, Bool.if_false_right, Bool.and_true,
    Bool.if_false_left, Bool.if_true_left, Bool.and_eq_true, Bool.not_eq_eq_eq_not, Bool.not_true,
    decide_eq_false_iff_not, Nat.not_lt, Bool.or_eq_true, decide_eq_true_eq]
  omega

theorem isWord_eq_false_of_isBlank {c : Char} (h : Text.isBlank c = true) : isWord c = false := by
  have hrange := contains_blankRanges h
  have hscore : c ≠ '_' := by
    rintro rfl
    cases h
  have hletter : isLetter c = false :=
    Ranges.contains_eq_false_of_apart (show blankRanges.apart letterRanges = true by decide +kernel)
      hrange
  have hdecimal : isDecimal c = false :=
    Ranges.contains_eq_false_of_apart
      (show blankRanges.apart decimalRanges = true by decide +kernel) hrange
  have hnumber : otherNumericRanges.contains c.toNat = false :=
    Ranges.contains_eq_false_of_apart
      (show blankRanges.apart otherNumericRanges = true by decide +kernel) hrange
  simp [isWord, isAlphanumeric, isNumeric, hscore, hletter, hdecimal, hnumber]

theorem isBlank_eq_false_of_isWord {c : Char} (h : isWord c = true) : Text.isBlank c = false := by
  rw [Bool.eq_false_iff]
  intro hblank
  rw [isWord_eq_false_of_isBlank hblank] at h
  cases h

theorem isDecimal_eq_false_of_isLetter {c : Char} (h : isLetter c = true) :
    isDecimal c = false :=
  Ranges.contains_eq_false_of_apart
    (show letterRanges.apart decimalRanges = true by decide +kernel) h

end JavadocTags.Unicode
