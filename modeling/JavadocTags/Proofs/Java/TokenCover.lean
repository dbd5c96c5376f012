import Mathlib
import JavadocTags.Proofs.Java.DeclarationOrder
import JavadocTags.Proofs.Unicode.Separation

/-!
# Tokens cover their lines

A line is cut into blanks and tokens that follow one another, with nothing between them and nothing
left over. Each token is the slice of its line that it stands at, so no two tokens overlap, every
character that is no blank lies in exactly one of them, and the tokens of a line joined are the line
without its blanks.
-/
namespace JavadocTags.Java

section Characters
variable {c : Char}

theorem isBlank_eq_false_of_continuesWord (h : continuesWord c = true) :
    Text.isBlank c = false := by
  rw [continuesWord, Bool.or_eq_true, beq_iff_eq] at h
  rcases h with h | rfl
  · exact Unicode.isBlank_eq_false_of_isWord h
  · rfl

theorem isBlank_eq_false_of_continuesNumber (h : continuesNumber c = true) :
    Text.isBlank c = false := by
  rw [continuesNumber, Bool.or_eq_true, beq_iff_eq] at h
  rcases h with h | rfl
  · exact Unicode.isBlank_eq_false_of_isWord h
  · rfl

theorem isBlank_eq_false_of_mem_splitLexeme {first : Char} {rest : List Char}
    (h : c ∈ (splitLexeme first rest).1) : Text.isBlank c = false := by
  unfold splitLexeme at h
  split at h
  · exact isBlank_eq_false_of_continuesWord (List.mem_takeWhile_imp h)
  · split at h
    · exact isBlank_eq_false_of_continuesNumber (List.mem_takeWhile_imp h)
    · -- The further characters of a symbol are dots, a colon or an angle bracket.
      have hsymbol : c = '.' ∨ c = ':' ∨ c = '>' := by
        split at h
        · simp_all
        · simp_all
        · simp_all
        · cases h
      rcases hsymbol with rfl | rfl | rfl
      · rfl
      · rfl
      · rfl

end Characters

def Token.stop (t : Token) : Nat :=
  t.column + t.text.length

/-- A token lies over a column of a line. -/
def Token.Covers (t : Token) (line column : Nat) : Prop :=
  t.line = line ∧ t.column ≤ column ∧ column < t.stop

/-- A token is the part of a line that it stands at, and holds a character but no blank. -/
structure Token.SliceOf (t : Token) (row : List Char) : Prop where
  ne_nil : t.text.toList ≠ []
  no_blank : ∀ c ∈ t.text.toList, Text.isBlank c = false
  slice : (row.drop t.column).take t.text.length = t.text.toList

/-- The part of a line from a column on, cut into blanks and tokens. -/
inductive Tiled (line : Nat) : Nat → List Char → List Token → Prop
  | nil {column : Nat} : Tiled line column [] []
  | blank {column : Nat} {c : Char} {rest : List Char} {ts : List Token} :
      Text.isBlank c = true → Tiled line (column + 1) rest ts → Tiled line column (c :: rest) ts
  | token {column : Nat} {word rest : List Char} {ts : List Token} :
      word ≠ [] → (∀ c ∈ word, Text.isBlank c = false) →
      Tiled line (column + word.length) rest ts →
      Tiled line column (word ++ rest) (⟨String.ofList word, line, column⟩ :: ts)

theorem tokensOfLine_tiled (line column : Nat) (text : List Char) :
    Tiled line column text (tokensOfLine line column text) := by
  fun_induction tokensOfLine line column text with
  | case1 => exact .nil
  | case2 column c rest hblank ih => exact .blank hblank ih
  | case3 column c rest hblank tail ih =>
      have hword : ∀ d ∈ c :: tail, Text.isBlank d = false := by
        rw [List.forall_mem_cons]
        exact ⟨by simpa using hblank, fun d hd => isBlank_eq_false_of_mem_splitLexeme hd⟩
      have htext : c :: rest = (c :: tail) ++ (splitLexeme c rest).2 := by
        rw [List.cons_append, splitLexeme_append]
      have hcolumn : column + 1 + tail.length = column + (c :: tail).length := by
        rw [List.length_cons]
        omega
      rw [hcolumn] at ih ⊢
      rw [htext]
      exact .token (List.cons_ne_nil c tail) hword ih

namespace Tiled
variable {line column : Nat} {text : List Char} {ts : List Token}

theorem split_of_mem (h : Tiled line column text ts) {t : Token} (ht : t ∈ ts) :
    t.line = line ∧ t.text.toList ≠ [] ∧ (∀ c ∈ t.text.toList, Text.isBlank c = false) ∧
      ∃ before after, text = before ++ (t.text.toList ++ after) ∧
        t.column = column + before.length := by
  induction h with
  | nil => cases ht
  | @blank column c rest ts _ _ ih =>
      obtain ⟨hline, hne, hword, before, after, rfl, hcolumn⟩ := ih ht
      refine ⟨hline, hne, hword, c :: before, after, rfl, ?_⟩
      rw [hcolumn, List.length_cons]
      omega
  | @token column word rest ts hne hword _ ih =>
      rcases List.mem_cons.1 ht with rfl | ht
      · rw [String.toList_ofList]
        exact ⟨rfl, hne, hword, [], rest, rfl, rfl⟩
      · obtain ⟨hline, hne, hword', before, after, rfl, hcolumn⟩ := ih ht
        refine ⟨hline, hne, hword', word ++ before, after, ?_, ?_⟩
        · rw [List.append_assoc]
        · rw [hcolumn, List.length_append]
          omega

theorem sliceOf (h : Tiled line 0 text ts) {t : Token} (ht : t ∈ ts) : t.SliceOf text := by
  obtain ⟨_, hne, hword, before, after, rfl, hcolumn⟩ := h.split_of_mem ht
  refine ⟨hne, hword, ?_⟩
  rw [hcolumn, Nat.zero_add, List.drop_left, ← String.length_toList, List.take_left]

theorem column_le_of_mem (h : Tiled line column text ts) {t : Token} (ht : t ∈ ts) :
    column ≤ t.column := by
  obtain ⟨_, _, _, before, _, _, hcolumn⟩ := h.split_of_mem ht
  omega

/-- A token ends before the next one begins. -/
theorem pairwise_apart (h : Tiled line column text ts) :
    ts.Pairwise fun t u => t.stop ≤ u.column := by
  induction h with
  | nil => exact .nil
  | blank _ _ ih => exact ih
  | @token column word rest ts _ _ hrest ih =>
      refine .cons ?_ ih
      intro u hu
      have hle := hrest.column_le_of_mem hu
      rwa [Token.stop, ← String.length_toList, String.toList_ofList]

/-- The tokens of a line joined are the line without its blanks. -/
theorem joined (h : Tiled line column text ts) :
    ts.flatMap (·.text.toList) = text.filter (!Text.isBlank ·) := by
  induction h with
  | nil => rfl
  | blank hblank _ ih => rw [ih, List.filter_cons_of_neg (by simp [hblank])]
  | @token column word rest ts _ hword _ ih =>
      have hkept : word.filter (!Text.isBlank ·) = word :=
        List.filter_eq_self.2 fun c hc => by simp [hword c hc]
      rw [List.flatMap_cons, ih, String.toList_ofList, List.filter_append, hkept]

theorem exists_covering (h : Tiled line column text ts) {offset : Nat} {c : Char}
    (hget : text[offset]? = some c) (hc : Text.isBlank c = false) :
    ∃ t ∈ ts, t.column ≤ column + offset ∧ column + offset < t.stop := by
  induction h generalizing offset with
  | nil => cases hget
  | @blank column d rest ts hblank _ ih =>
      cases offset with
      | zero =>
          obtain rfl := Option.some.inj hget
          rw [hblank] at hc
          cases hc
      | succ offset =>
          obtain ⟨t, ht, hcovers⟩ := ih hget
          refine ⟨t, ht, ?_⟩
          omega
  | @token column word rest ts _ _ _ ih =>
      by_cases hinside : offset < word.length
      · refine ⟨_, List.mem_cons_self, Nat.le_add_right _ _, ?_⟩
        rw [Token.stop, ← String.length_toList, String.toList_ofList]
        exact Nat.add_lt_add_left hinside column
      · rw [List.getElem?_append_right (Nat.le_of_not_lt hinside)] at hget
        obtain ⟨t, ht, hcovers⟩ := ih hget
        refine ⟨t, List.mem_cons_of_mem _ ht, ?_⟩
        omega

/-- No two tokens of a line lie over the same column. -/
theorem eq_of_covering (h : Tiled line column text ts) {t u : Token} (ht : t ∈ ts) (hu : u ∈ ts)
    {place : Nat} (hplace : t.column ≤ place ∧ place < t.stop)
    (hplace' : u.column ≤ place ∧ place < u.stop) : t = u := by
  by_contra hne
  have hsymm : Std.Symm fun t u : Token => t.stop ≤ u.column ∨ u.stop ≤ t.column :=
    ⟨fun _ _ => Or.symm⟩
  have happart : ts.Pairwise fun t u => t.stop ≤ u.column ∨ u.stop ≤ t.column :=
    h.pairwise_apart.imp .inl
  rcases happart.forall ht hu hne with hle | hle
  · omega
  · omega

end Tiled

section Lines

theorem mem_tokensFrom_iff {t : Token} {line : Nat} {lines : List (List Char)} :
    t ∈ tokensFrom line lines ↔
      ∃ n row, lines[n]? = some row ∧ t ∈ tokensOfLine (line + n) 0 row := by
  induction lines generalizing line with
  | nil => simp [tokensFrom]
  | cons text rest ih =>
      rw [tokensFrom, List.mem_append, ih]
      constructor
      · rintro (h | ⟨n, row, hrow, h⟩)
        · exact ⟨0, text, rfl, h⟩
        · refine ⟨n + 1, row, hrow, ?_⟩
          rwa [← Nat.add_assoc, Nat.add_right_comm]
      · rintro ⟨n, row, hrow, h⟩
        cases n with
        | zero =>
            obtain rfl := Option.some.inj hrow
            exact .inl h
        | succ n =>
            refine .inr ⟨n, row, hrow, ?_⟩
            rwa [← Nat.add_assoc, Nat.add_right_comm] at h

theorem line_of_mem_tokensOfLine {t : Token} {line column : Nat} {text : List Char}
    (h : t ∈ tokensOfLine line column text) : t.line = line :=
  ((tokensOfLine_tiled line column text).split_of_mem h).1

theorem filter_tokensFrom {line n : Nat} {lines : List (List Char)} {row : List Char}
    (hrow : lines[n]? = some row) :
    (tokensFrom line lines).filter (·.line == line + n) = tokensOfLine (line + n) 0 row := by
  induction lines generalizing line n with
  | nil => cases hrow
  | cons text rest ih =>
      rw [tokensFrom, List.filter_append]
      cases n with
      | zero =>
          obtain rfl := Option.some.inj hrow
          have hfirst : (tokensOfLine line 0 text).filter (·.line == line + 0) =
              tokensOfLine line 0 text :=
            List.filter_eq_self.2 fun t ht => by simp [line_of_mem_tokensOfLine ht]
          have hlater : (tokensFrom (line + 1) rest).filter (·.line == line + 0) = [] := by
            rw [List.filter_eq_nil_iff]
            intro t ht hline
            have hle := line_le_of_mem_tokensFrom ht
            rw [beq_iff_eq] at hline
            omega
          rw [hfirst, hlater, List.append_nil, Nat.add_zero]
      | succ n =>
          have hfirst : (tokensOfLine line 0 text).filter (·.line == line + (n + 1)) = [] := by
            rw [List.filter_eq_nil_iff]
            intro t ht hline
            rw [line_of_mem_tokensOfLine ht, beq_iff_eq] at hline
            omega
          rw [hfirst, List.nil_append, Nat.add_comm n 1, ← Nat.add_assoc]
          exact ih hrow

theorem tokensFrom_pairwise_apart (line : Nat) (lines : List (List Char)) :
    (tokensFrom line lines).Pairwise fun t u => t.line = u.line → t.stop ≤ u.column := by
  induction lines generalizing line with
  | nil => exact .nil
  | cons text rest ih =>
      rw [tokensFrom, List.pairwise_append]
      refine ⟨?_, ih (line + 1), ?_⟩
      · apply (tokensOfLine_tiled line 0 text).pairwise_apart.imp
        intro t u hle _
        exact hle
      · intro t ht u hu heq
        have hline := line_of_mem_tokensOfLine ht
        have hle := line_le_of_mem_tokensFrom hu
        omega

end Lines

/-- Tokens that come in order and hold all of their lines but the blanks. -/
structure Lossless (lines : List (List Char)) (ts : List Token) : Prop where
  ordered : ts.Pairwise fun t u => Earlier t.place u.place
  apart : ts.Pairwise fun t u => t.line = u.line → t.stop ≤ u.column
  slices : ∀ t ∈ ts, ∃ n row, t.line = n + 1 ∧ lines[n]? = some row ∧ t.SliceOf row
  covered : ∀ n row column c, lines[n]? = some row → row[column]? = some c →
    Text.isBlank c = false → ∃! t, t ∈ ts ∧ t.Covers (n + 1) column
  joined : ∀ n row, lines[n]? = some row →
    (ts.filter (·.line == n + 1)).flatMap (·.text.toList) = row.filter (!Text.isBlank ·)

/-- Nothing but blanks is lost when lines are cut into tokens. -/
theorem tokens_lossless (lines : List (List Char)) : Lossless lines (tokens lines) := by
  have hmem {t : Token} {n : Nat} {row : List Char} (hrow : lines[n]? = some row)
      (hline : t.line = n + 1) : t ∈ tokens lines ↔ t ∈ tokensOfLine (1 + n) 0 row := by
    rw [← filter_tokensFrom hrow, List.mem_filter, beq_iff_eq, tokens]
    exact ⟨fun h => ⟨h, by omega⟩, And.left⟩
  refine ⟨tokensFrom_pairwise 1 lines, tokensFrom_pairwise_apart 1 lines, ?_, ?_, ?_⟩
  · intro t ht
    obtain ⟨n, row, hrow, htoken⟩ := mem_tokensFrom_iff.1 ht
    refine ⟨n, row, ?_, hrow, (tokensOfLine_tiled (1 + n) 0 row).sliceOf htoken⟩
    rw [line_of_mem_tokensOfLine htoken, Nat.add_comm]
  · intro n row column c hrow hget hc
    have htiled := tokensOfLine_tiled (1 + n) 0 row
    obtain ⟨t, ht, hcovers⟩ := htiled.exists_covering hget hc
    rw [Nat.zero_add] at hcovers
    have hline : t.line = n + 1 := by rw [line_of_mem_tokensOfLine ht, Nat.add_comm]
    refine ⟨t, ⟨(hmem hrow hline).2 ht, hline, hcovers⟩, ?_⟩
    rintro u ⟨hu, hline', hcovers'⟩
    exact htiled.eq_of_covering ((hmem hrow hline').1 hu) ht hcovers' hcovers
  · intro n row hrow
    rw [Nat.add_comm n 1, tokens, filter_tokensFrom hrow]
    exact (tokensOfLine_tiled (1 + n) 0 row).joined

end JavadocTags.Java
