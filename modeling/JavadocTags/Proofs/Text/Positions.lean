import JavadocTags.Text.Lines

/-!
# Positions as read from left to right

The binary search over the starts of the lines finds the position that one gets by reading the
text before an offset character by character. The lines of a text are described by a case
distinction on its first line, which serves as the induction for everything that goes line by line.
-/
namespace JavadocTags.Text

namespace Position

def advance (p : Position) (c : Char) : Position :=
  if c = '\n' then ⟨p.line + 1, 0⟩ else ⟨p.line, p.column + 1⟩

def after (p : Position) (text : List Char) : Position :=
  text.foldl advance p

def origin : Position := ⟨1, 0⟩

@[simp] theorem after_nil (p : Position) : p.after [] = p := rfl

@[simp] theorem after_cons (p : Position) (c : Char) (text : List Char) :
    p.after (c :: text) = (p.advance c).after text := rfl

@[simp] theorem after_append (p : Position) (text rest : List Char) :
    p.after (text ++ rest) = (p.after text).after rest :=
  List.foldl_append

@[simp] theorem advance_lineFeed (p : Position) : p.advance '\n' = ⟨p.line + 1, 0⟩ := rfl

@[simp] theorem advance_of_ne {c : Char} (p : Position) (h : c ≠ '\n') :
    p.advance c = ⟨p.line, p.column + 1⟩ :=
  if_neg h

@[simp] theorem after_line (p : Position) (text : List Char) :
    (p.after text).line = p.line + text.count '\n' := by
  induction text generalizing p with
  | nil => rfl
  | cons c text ih =>
      rw [after_cons, ih]
      by_cases hc : c = '\n'
      · rw [hc, advance_lineFeed, List.count_cons_self, Nat.add_assoc, Nat.add_comm 1]
      · rw [advance_of_ne p hc, List.count_cons_of_ne hc]

theorem after_of_not_mem {text : List Char} (p : Position) (h : '\n' ∉ text) :
    p.after text = ⟨p.line, p.column + text.length⟩ := by
  induction text generalizing p with
  | nil => rfl
  | cons c text ih =>
      rw [List.mem_cons, not_or] at h
      rw [after_cons, ih _ h.2, advance_of_ne p (Ne.symm h.1), List.length_cons]
      simp only [Nat.add_assoc, Nat.add_comm 1]

end Position

theorem startsAfter_append (offset : Nat) (before after : List Char) :
    startsAfter offset (before ++ after) =
      startsAfter offset before ++ startsAfter (offset + before.length) after := by
  induction before generalizing offset with
  | nil => rfl
  | cons c before ih =>
      simp only [List.cons_append, startsAfter, ih, List.length_cons]
      have hoffset : offset + 1 + before.length = offset + (before.length + 1) := by omega
      split <;> simp [hoffset]

@[simp] theorem length_startsAfter (offset : Nat) (text : List Char) :
    (startsAfter offset text).length = text.count '\n' := by
  induction text generalizing offset with
  | nil => rfl
  | cons c text ih =>
      rw [startsAfter]
      split
      · rename_i hc
        rw [hc, List.count_cons_self, List.length_cons, ih]
      · rename_i hc
        rw [List.count_cons_of_ne hc, ih]

theorem mem_startsAfter {offset start : Nat} {text : List Char}
    (h : start ∈ startsAfter offset text) : offset < start ∧ start ≤ offset + text.length := by
  induction text generalizing offset with
  | nil => cases h
  | cons c text ih =>
      have hlater (h : start ∈ startsAfter (offset + 1) text) :
          offset < start ∧ start ≤ offset + (c :: text).length := by
        have hbounds := ih h
        rw [List.length_cons]
        omega
      rw [startsAfter] at h
      split at h
      · rcases List.mem_cons.1 h with rfl | h
        · rw [List.length_cons]
          omega
        · exact hlater h
      · exact hlater h

/-- The column is the distance from the last start of a line. -/
theorem getLast_startsAfter {start offset : Nat} {p : Position} (h : start + p.column = offset)
    (text : List Char) :
    (start :: startsAfter offset text).getLast (by simp) + (p.after text).column =
      offset + text.length := by
  induction text generalizing start offset p with
  | nil => exact h
  | cons c text ih =>
      rw [Position.after_cons, List.length_cons, Nat.add_comm text.length, ← Nat.add_assoc]
      by_cases hc : c = '\n'
      · simp only [startsAfter, if_pos hc, List.getLast_cons_cons]
        rw [hc, Position.advance_lineFeed]
        exact ih rfl
      · simp only [startsAfter, if_neg hc, Position.advance_of_ne _ hc]
        refine ih ?_
        rw [← h]
        rfl

namespace LineIndex

/-- The search ends at the only line that starts at or before the offset while the next one, if
there is one, starts after it. -/
theorem search_eq {index : LineIndex} {offset low high line : Nat} (hlow : low ≤ line)
    (hhigh : line ≤ high) (hle : ∀ i, i ≤ line → index.starts.getD i 0 ≤ offset)
    (hgt : ∀ i, line < i → i ≤ high → offset < index.starts.getD i 0) :
    index.search offset low high = line := by
  -- Both halves keep `line` between `low` and `high`.
  fun_induction search index offset low high with
  | case1 low high hlt middle hmiddle ih =>
      refine ih ?_ hhigh hgt
      by_cases hline : line < middle
      · have := hgt middle hline (by omega)
        omega
      · omega
  | case2 low high hlt middle hmiddle ih =>
      have hline : line < middle := by
        by_cases hline : middle ≤ line
        · exact absurd (hle middle hline) hmiddle
        · omega
      exact ih hlow (by omega) fun i hi hmax => hgt i hi (by omega)
  | case3 low high hlt => omega

section Append
variable (before after : List Char)

theorem starts_ofText_append :
    (ofText (before ++ after)).starts =
      ((0 :: startsAfter 0 before) ++ startsAfter before.length after).toArray := by
  rw [ofText, startsAfter_append, Nat.zero_add]
  rfl

theorem getD_starts_ofText_append (i : Nat) :
    (ofText (before ++ after)).starts.getD i 0 =
      ((0 :: startsAfter 0 before) ++ startsAfter before.length after)[i]?.getD 0 := by
  rw [starts_ofText_append]
  simp

theorem search_ofText_append :
    (ofText (before ++ after)).search before.length 0
      ((ofText (before ++ after)).starts.size - 1) = before.count '\n' := by
  have hsize : (ofText (before ++ after)).starts.size - 1 =
      before.count '\n' + after.count '\n' := by
    rw [starts_ofText_append, List.size_toArray, List.length_append, List.length_cons,
      length_startsAfter, length_startsAfter]
    omega
  have hlength : (0 :: startsAfter 0 before).length = before.count '\n' + 1 := by
    rw [List.length_cons, length_startsAfter]
  rw [hsize]
  refine search_eq (Nat.zero_le _) (by omega) ?_ ?_
  · intro i hi
    rw [getD_starts_ofText_append, List.getElem?_append_left (by omega)]
    cases h : (0 :: startsAfter 0 before)[i]? with
    | none => simp
    | some start =>
        rcases List.mem_cons.1 (List.mem_of_getElem? h) with rfl | hmem
        · exact Nat.zero_le _
        · have hstart := (mem_startsAfter hmem).2
          simpa using hstart
  · intro i hi hmax
    rw [getD_starts_ofText_append, List.getElem?_append_right (by omega),
      List.getElem?_eq_getElem (by rw [length_startsAfter]; omega), Option.getD_some]
    exact (mem_startsAfter (List.getElem_mem _)).1

/-- The last line that starts before an offset starts as far before it as the column says. -/
theorem getD_starts_add_column :
    (ofText (before ++ after)).starts.getD (before.count '\n') 0 +
      (Position.origin.after before).column = before.length := by
  have hlength := length_startsAfter 0 before
  have hcolumn := getLast_startsAfter (show 0 + Position.origin.column = 0 from rfl) before
  rw [Nat.zero_add] at hcolumn
  rw [getD_starts_ofText_append, List.getElem?_append_left (by simp [hlength]), ← hcolumn,
    List.getLast_eq_getElem, List.getElem?_eq_getElem (by simp [hlength])]
  simp [hlength]

/-- The position of an offset is what reading the text before it gives. -/
theorem position_append :
    (ofText (before ++ after)).position before.length = Position.origin.after before := by
  have hlast := getD_starts_add_column before after
  have hline := Position.after_line Position.origin before
  unfold position
  simp only [search_ofText_append]
  generalize Position.origin.after before = p at hlast hline ⊢
  obtain ⟨line, column⟩ := p
  simp only [Position.origin, Position.mk.injEq] at hline hlast ⊢
  omega

end Append

theorem position_eq {text : List Char} {offset : Nat} (h : offset ≤ text.length) :
    (ofText text).position offset = Position.origin.after (text.take offset) := by
  have hsplit := position_append (text.take offset) (text.drop offset)
  rwa [List.take_append_drop, List.length_take, Nat.min_eq_left h] at hsplit

end LineIndex

@[simp] theorem lines_of_not_mem {line : List Char} (h : '\n' ∉ line) : lines line = [line] :=
  List.splitOn_eq_singleton h

theorem lines_append {line : List Char} (h : '\n' ∉ line) (rest : List Char) :
    lines (line ++ '\n' :: rest) = line :: lines rest :=
  List.splitOn_append_cons_self_of_not_mem h rest

theorem lines_flatMap {front : List (List Char)} (h : ∀ line ∈ front, '\n' ∉ line)
    (rest : List Char) : lines (front.flatMap (· ++ ['\n']) ++ rest) = front ++ lines rest := by
  induction front with
  | nil => rfl
  | cons line front ih =>
      rw [List.forall_mem_cons] at h
      rw [List.flatMap_cons, List.append_assoc, List.append_assoc, List.singleton_append,
        lines_append h.1, ih h.2]
      rfl

/-- Induction on the lines of a text: it is one line, or a line, its end and a text. -/
theorem lines_induction {motive : List Char → Prop}
    (last : ∀ line, '\n' ∉ line → motive line)
    (line : ∀ line rest, '\n' ∉ line → motive rest → motive (line ++ '\n' :: rest))
    (text : List Char) : motive text := by
  by_cases h : '\n' ∈ text
  · obtain ⟨first, rest, htext, hfirst⟩ := List.eq_append_cons_of_mem h
    rw [htext]
    exact line first rest hfirst (lines_induction last line rest)
  · exact last text h
termination_by text.length
decreasing_by
  rw [htext, List.length_append, List.length_cons]
  omega

@[simp] theorem length_lines (text : List Char) : (lines text).length = text.count '\n' + 1 := by
  induction text using lines_induction with
  | last line hline =>
      rw [lines_of_not_mem hline, List.count_eq_zero.2 hline, List.length_singleton]
  | line line rest hline ih =>
      rw [lines_append hline, List.length_cons, ih, List.count_append, List.count_cons_self,
        List.count_eq_zero.2 hline, Nat.zero_add]

theorem exists_line {text : List Char} {offset : Nat} (h : offset ≤ text.length) :
    ∃ before line after, text = before ++ line ++ after ∧ '\n' ∉ line ∧
      (lines text)[before.count '\n']? = some line ∧
      (∀ n, Position.after ⟨n, 0⟩ before = ⟨n + before.count '\n', 0⟩) ∧
      before.length ≤ offset ∧ offset ≤ before.length + line.length ∧
      (after = [] ∨ ∃ rest, after = '\n' :: rest) := by
  induction text using lines_induction generalizing offset with
  | last line hline =>
      refine ⟨[], line, [], by simp, hline, ?_, fun _ => rfl, Nat.zero_le _, by simpa, .inl rfl⟩
      rw [lines_of_not_mem hline]
      rfl
  | line first rest hfirst ih =>
      by_cases hoffset : offset ≤ first.length
      · refine ⟨[], first, '\n' :: rest, rfl, hfirst, ?_, fun _ => rfl, Nat.zero_le _, by simpa,
          .inr ⟨rest, rfl⟩⟩
        rw [lines_append hfirst]
        rfl
      · rw [List.length_append, List.length_cons] at h
        obtain ⟨before, line, after, rfl, hline, hget, hstart, hle, hge, hafter⟩ :=
          ih (show offset - (first.length + 1) ≤ rest.length by omega)
        refine ⟨first ++ '\n' :: before, line, after, by simp, hline, ?_, ?_, ?_, ?_, hafter⟩
        · rw [lines_append hfirst, List.count_append, List.count_cons_self,
            List.count_eq_zero.2 hfirst, Nat.zero_add, List.getElem?_cons_succ, hget]
        · intro n
          rw [Position.after_append, Position.after_cons, Position.advance_lineFeed, hstart,
            Position.after_line, List.count_append, List.count_cons_self]
          simp only [Nat.add_assoc, Nat.add_comm 1]
        · rw [List.length_append, List.length_cons]
          omega
        · rw [List.length_append, List.length_cons]
          omega

theorem exists_lines_eq_cons (text : List Char) : ∃ first rest, lines text = first :: rest :=
  List.exists_cons_of_ne_nil (List.splitOn_ne_nil '\n' text)

theorem lines_append_of_not_mem {line : List Char} (hline : '\n' ∉ line) {text first : List Char}
    {rest : List (List Char)} (h : lines text = first :: rest) :
    lines (line ++ text) = (line ++ first) :: rest := by
  induction text using lines_induction with
  | last second hsecond =>
      rw [lines_of_not_mem hsecond] at h
      obtain ⟨rfl, rfl⟩ := List.cons.inj h
      exact lines_of_not_mem (by simp [hline, hsecond])
  | line second later hsecond _ =>
      rw [lines_append hsecond] at h
      obtain ⟨rfl, rfl⟩ := List.cons.inj h
      rw [← List.append_assoc, lines_append (by simp [hline, hsecond])]

/-- Two texts that are joined share a line: it begins with the last line of the first text and goes
on with the first line of the second one. -/
theorem exists_lines_append (text later : List Char) :
    ∃ front last first rest, lines text = front ++ [last] ∧ lines later = first :: rest ∧
      lines (text ++ later) = front ++ (last ++ first) :: rest ∧
      ∀ n, Position.after ⟨n, 0⟩ text = ⟨n + front.length, last.length⟩ := by
  obtain ⟨first, rest, hlater⟩ := exists_lines_eq_cons later
  induction text using lines_induction with
  | last line hline =>
      refine ⟨[], line, first, rest, lines_of_not_mem hline, hlater,
        lines_append_of_not_mem hline hlater, fun n => ?_⟩
      rw [Position.after_of_not_mem _ hline, Nat.zero_add]
      rfl
  | line line text hline ih =>
      obtain ⟨front, last, first, rest, htext, hlater, hjoined, hposition⟩ := ih
      refine ⟨line :: front, last, first, rest, ?_, hlater, ?_, fun n => ?_⟩
      · rw [lines_append hline, htext, List.cons_append]
      · rw [List.append_assoc, List.cons_append, lines_append hline, hjoined, List.cons_append]
      · rw [Position.after_append, Position.after_cons, Position.after_of_not_mem _ hline,
          Position.advance_lineFeed, hposition, List.length_cons]
        simp only [Nat.add_assoc, Nat.add_comm 1]

/-- A line of a text stands behind as many line feeds as there are lines before it. -/
theorem exists_of_getElem?_lines {text line : List Char} {i : Nat}
    (h : (lines text)[i]? = some line) :
    ∃ before after, text = before ++ line ++ after ∧ before.count '\n' = i ∧ '\n' ∉ line ∧
      (before = [] ∨ ∃ front, before = front ++ ['\n']) ∧
      (after = [] ∨ ∃ rest, after = '\n' :: rest) := by
  induction text using lines_induction generalizing i with
  | last only honly =>
      rw [lines_of_not_mem honly, List.getElem?_singleton] at h
      split at h
      · rename_i hi
        obtain rfl := Option.some.inj h
        exact ⟨[], [], by simp, by simp [hi], honly, .inl rfl, .inl rfl⟩
      · cases h
  | line first rest hfirst ih =>
      rw [lines_append hfirst] at h
      cases i with
      | zero =>
          obtain rfl := Option.some.inj h
          exact ⟨[], '\n' :: rest, rfl, rfl, hfirst, .inl rfl, .inr ⟨rest, rfl⟩⟩
      | succ i =>
          obtain ⟨before, after, rfl, hcount, hline, hbefore, hafter⟩ := ih h
          refine ⟨first ++ '\n' :: before, after, by simp, ?_, hline, .inr ?_, hafter⟩
          · rw [List.count_append, List.count_cons_self, List.count_eq_zero.2 hfirst,
              Nat.zero_add, hcount]
          · rcases hbefore with rfl | ⟨front, rfl⟩
            · exact ⟨first, rfl⟩
            · exact ⟨first ++ '\n' :: front, by simp⟩

theorem not_mem_of_mem_lines {text line : List Char} (h : line ∈ lines text) : '\n' ∉ line := by
  obtain ⟨i, hi⟩ := List.getElem?_of_mem h
  obtain ⟨_, _, _, _, hline, _⟩ := exists_of_getElem?_lines hi
  exact hline

end JavadocTags.Text
