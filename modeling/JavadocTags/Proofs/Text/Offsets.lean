import JavadocTags.Proofs.Text.Positions

/-!
# The position of an offset

The search for a line is a loop: nothing but its halving of the range makes it end, and nothing but
its bounds keeps it from a start that does not exist. As a loop of so many turns it goes as the
search does, once it has more of them than there are lines. The position that it finds is said
without it: the line counts the line feeds before the offset, the column starts behind the last of
them, and the text split at its line feeds holds the same character there.
-/
namespace JavadocTags.Text

/-- The line of an offset begins at `start`: just behind the last line feed before the offset, or at
the beginning of the text if there is none. -/
structure BeginsLine (text : List Char) (offset start : Nat) : Prop where
  le : start ≤ offset
  first_or_behind : start = 0 ∨ ∃ i, start = i + 1 ∧ text[i]? = some '\n'
  none_between : ∀ i, start ≤ i → i < offset → text[i]? ≠ some '\n'

theorem BeginsLine.unique {text : List Char} {offset start other : Nat}
    (h : BeginsLine text offset start) (hother : BeginsLine text offset other) : start = other := by
  have hle {first second : Nat} (hfirst : BeginsLine text offset first)
      (hsecond : BeginsLine text offset second) : second ≤ first := by
    rcases hsecond.first_or_behind with rfl | ⟨i, rfl, hfeed⟩
    · exact Nat.zero_le first
    · by_cases hi : first ≤ i
      · exact absurd hfeed (hfirst.none_between i hi hsecond.le)
      · omega
  exact Nat.le_antisymm (hle hother h) (hle h hother)

namespace LineIndex

/-- The search as a loop of so many turns. It has no result if the turns do not suffice or if a
start is looked up that does not exist. -/
def searchLoop? (index : LineIndex) (offset : Nat) : Nat → Nat → Nat → Option Nat
  | 0, _, _ => none
  | turns + 1, low, high =>
      if low < high then do
        let middle := (low + high + 1) / 2
        let start ← index.starts[middle]?
        if start ≤ offset then index.searchLoop? offset turns middle high
        else index.searchLoop? offset turns low (middle - 1)
      else some low

def positionLoop? (index : LineIndex) (turns offset : Nat) : Option Position := do
  let line ← index.searchLoop? offset turns 0 (index.starts.size - 1)
  let start ← index.starts[line]?
  return ⟨line + 1, offset - start⟩

variable {index : LineIndex} {offset low high turns : Nat}

theorem getElem?_starts {i : Nat} (h : i < index.starts.size) :
    index.starts[i]? = some (index.starts.getD i 0) := by
  rw [Array.getElem?_eq_getElem h, Array.getD_eq_getD_getElem?, Array.getElem?_eq_getElem h,
    Option.getD_some]

theorem searchLoop?_turn (hlt : low < high) (hhigh : high < index.starts.size) :
    index.searchLoop? offset (turns + 1) low high =
      if index.starts.getD ((low + high + 1) / 2) 0 ≤ offset then
        index.searchLoop? offset turns ((low + high + 1) / 2) high
      else index.searchLoop? offset turns low ((low + high + 1) / 2 - 1) := by
  have hmiddle : (low + high + 1) / 2 < index.starts.size := by omega
  rw [searchLoop?, if_pos hlt]
  simp only [getElem?_starts hmiddle, Option.bind_eq_bind, Option.bind_some]

/-- The range shrinks with each turn, and its middle lies in it. -/
theorem searchLoop?_eq (hhigh : high < index.starts.size) (hturns : high - low < turns) :
    index.searchLoop? offset turns low high = some (index.search offset low high) := by
  induction turns generalizing low high with
  | zero => exact absurd hturns (Nat.not_lt_zero _)
  | succ turns ih =>
      rw [search]
      by_cases hlt : low < high
      · rw [searchLoop?_turn hlt hhigh, dif_pos hlt]
        dsimp only
        split
        · exact ih hhigh (by omega)
        · exact ih (by omega) (by omega)
      · rw [searchLoop?, if_neg hlt, dif_neg hlt]

theorem search_le (hle : low ≤ high) : index.search offset low high ≤ high := by
  fun_induction search index offset low high with
  | case1 low high hlt middle hmiddle ih => exact ih (by omega)
  | case2 low high hlt middle hmiddle ih =>
      have hbelow := ih (by omega)
      omega
  | case3 low high hlt => exact hle

@[simp] theorem size_starts_ofText (text : List Char) :
    (ofText text).starts.size = text.count '\n' + 1 := by
  rw [ofText, List.size_toArray, List.length_cons, length_startsAfter]

/-- A loop of more turns than the text has characters ends, and looks up no start that does not
exist. -/
theorem positionLoop?_ofText {text : List Char} (hturns : text.length < turns) :
    (ofText text).positionLoop? turns offset = some ((ofText text).position offset) := by
  have hsize := size_starts_ofText text
  have hcount : text.count '\n' ≤ text.length := List.count_le_length
  have hloop : (ofText text).searchLoop? offset turns 0 ((ofText text).starts.size - 1) =
      some ((ofText text).search offset 0 ((ofText text).starts.size - 1)) :=
    searchLoop?_eq (by omega) (by omega)
  have hline : (ofText text).search offset 0 ((ofText text).starts.size - 1) <
      (ofText text).starts.size :=
    Nat.lt_of_le_of_lt (search_le (Nat.zero_le _)) (by omega)
  simp only [positionLoop?, hloop, Option.bind_eq_bind, Option.bind_some, getElem?_starts hline]
  rfl

end LineIndex

/-- A text behind which a line begins is empty or ends in a line feed. -/
theorem eq_nil_or_lineFeed {before : List Char} {p : Position} (h : (p.after before).column = 0) :
    before = [] ∨ ∃ front, before = front ++ ['\n'] := by
  rcases List.eq_nil_or_concat before with rfl | ⟨front, c, rfl⟩
  · exact .inl rfl
  · rw [List.concat_eq_append] at h ⊢
    by_cases hc : c = '\n'
    · exact .inr ⟨front, by rw [hc]⟩
    · rw [Position.after_append, Position.after_cons, Position.after_nil,
        Position.advance_of_ne _ hc] at h
      exact absurd h (Nat.succ_ne_zero _)

theorem beginsLine_append {before line : List Char} {offset : Nat} {p : Position}
    (hstart : (p.after before).column = 0) (hline : '\n' ∉ line) (hle : before.length ≤ offset)
    (hge : offset ≤ before.length + line.length) (after : List Char) :
    BeginsLine (before ++ line ++ after) offset before.length := by
  refine ⟨hle, ?_, fun i hi hlt hfeed => ?_⟩
  · rcases eq_nil_or_lineFeed hstart with rfl | ⟨front, rfl⟩
    · exact .inl rfl
    · exact .inr ⟨front.length, by simp, by simp⟩
  · rw [List.append_assoc, List.getElem?_append_right hi,
      List.getElem?_append_left (by omega)] at hfeed
    exact hline (List.mem_of_getElem? hfeed)

/-- The position of an offset counts the line feeds before it and the characters since the line of
the offset began. The loop that looks for it ends and looks up no start that does not exist, and
what stands at the offset, unless it is a line feed, stands there in the text split at its line
feeds. -/
theorem position_of_offset {text : List Char} {offset : Nat} (h : offset ≤ text.length) :
    ∃ start p, BeginsLine text offset start ∧
      p = ⟨1 + (text.take offset).count '\n', offset - start⟩ ∧
      (LineIndex.ofText text).position offset = p ∧
      (∀ turns, text.length < turns →
        (LineIndex.ofText text).positionLoop? turns offset = some p) ∧
      ∀ c, text[offset]? = some c → c ≠ '\n' →
        ∃ piece, (lines text)[p.line - 1]? = some piece ∧ piece[p.column]? = some c := by
  obtain ⟨before, line, after, htext, hline, hget, hstart, hle, hge, hafter⟩ :=
    exists_line h
  have htake : text.take offset = before ++ line.take (offset - before.length) := by
    rw [htext, List.append_assoc, List.take_append, List.take_of_length_le hle,
      List.take_append_of_le_length (by omega)]
  have hpiece : '\n' ∉ line.take (offset - before.length) :=
    fun hmem => hline (List.mem_of_mem_take hmem)
  have hposition : (LineIndex.ofText text).position offset =
      ⟨1 + before.count '\n', offset - before.length⟩ := by
    rw [LineIndex.position_eq h, htake, Position.after_append, Position.origin, hstart,
      Position.after_of_not_mem _ hpiece, List.length_take_of_le (by omega), Nat.zero_add]
  have hcount : (text.take offset).count '\n' = before.count '\n' := by
    rw [htake, List.count_append, List.count_eq_zero.2 hpiece, Nat.add_zero]
  refine ⟨before.length, _, ?_, rfl, ?_, fun turns hturns => ?_, fun c hc hfeed => ⟨line, ?_, ?_⟩⟩
  · rw [htext]
    exact beginsLine_append (p := ⟨0, 0⟩) (by rw [hstart]) hline hle hge after
  · rw [hcount, hposition]
  · rw [hcount, LineIndex.positionLoop?_ofText hturns, hposition]
  · rw [hcount, Nat.add_sub_cancel_left, hget]
  · rw [htext, List.append_assoc, List.getElem?_append_right hle] at hc
    by_cases hend : offset - before.length < line.length
    · rwa [List.getElem?_append_left hend] at hc
    · -- Behind the line stands a line feed, or nothing.
      rw [List.getElem?_append_right (by omega), show offset - before.length - line.length = 0
        by omega] at hc
      rcases hafter with rfl | ⟨rest, rfl⟩
      · cases hc
      · exact absurd (Option.some.inj hc).symm hfeed

def gappedText : List Char := ['a', 'b', '\n', '\n', 'c', 'd']

theorem beginsLine_gappedText : BeginsLine gappedText 5 4 := by
  refine ⟨by decide, .inr ⟨3, rfl, rfl⟩, fun i hlow hhigh => ?_⟩
  obtain rfl : i = 4 := by omega
  decide

theorem position_of_offset_gappedText :
    5 ≤ gappedText.length ∧ BeginsLine gappedText 5 4 ∧
      (LineIndex.ofText gappedText).position 5 = ⟨3, 1⟩ ∧
      (∀ turns, gappedText.length < turns →
        (LineIndex.ofText gappedText).positionLoop? turns 5 = some ⟨3, 1⟩) ∧
      ∃ piece, (lines gappedText)[2]? = some piece ∧ piece[1]? = some 'd' := by
  have hle : 5 ≤ gappedText.length := by decide
  obtain ⟨start, p, hbegins, hp, hposition, hloop, hchar⟩ := position_of_offset hle
  obtain rfl := hbegins.unique beginsLine_gappedText
  obtain rfl : p = ⟨3, 1⟩ := hp
  exact ⟨hle, hbegins, hposition, hloop, hchar 'd' rfl (by decide)⟩

end JavadocTags.Text
