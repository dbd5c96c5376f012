import JavadocTags.Proofs.Text.Positions
import Mathlib.Data.List.TakeWhile

/-!
# Items between commas

A list of items is written by joining pieces with commas. A piece is blank, or it is the next item
with blanks around it. Whatever the blanks and however many blank pieces there are, the items are
read back.
-/
namespace JavadocTags.Text

/-- A text that can stand as an item between commas: it is not empty, holds no comma, and neither
begins nor ends with a blank. -/
structure IsCommaItem (item : List Char) : Prop where
  ne_nil : item ≠ []
  no_comma : ',' ∉ item
  head : ∀ c ∈ item.head?, isBlank c = false
  last : ∀ c ∈ item.getLast?, isBlank c = false

/-- The pieces between the commas, for the items that they hold in order. -/
inductive PaddedItems : List (List Char) → List (List Char) → Prop
  | nil : PaddedItems [] []
  | blank {items pieces : List (List Char)} {blanks : List Char}
      (hblanks : isBlankText blanks = true) (hrest : PaddedItems items pieces) :
      PaddedItems items (blanks :: pieces)
  | item {items pieces : List (List Char)} {before item after : List Char}
      (hbefore : isBlankText before = true) (hafter : isBlankText after = true)
      (hitem : IsCommaItem item) (hrest : PaddedItems items pieces) :
      PaddedItems (item :: items) ((before ++ item ++ after) :: pieces)

def CommaSeparated (items : List (List Char)) (text : List Char) : Prop :=
  ∃ pieces, PaddedItems items pieces ∧ text = List.intercalate [','] pieces

/-! ## Trimming -/

variable {before after blanks item : List Char} {items pieces : List (List Char)}

theorem isBlank_of_mem {c : Char} (h : isBlankText blanks = true) (hc : c ∈ blanks) :
    isBlank c = true :=
  List.all_eq_true.1 h c hc

@[simp] theorem isBlankText_reverse (h : isBlankText blanks = true) :
    isBlankText blanks.reverse = true := by
  rwa [isBlankText, List.all_reverse]

theorem trimStart_append_of_blank (h : isBlankText before = true) (text : List Char) :
    trimStart (before ++ text) = trimStart text :=
  List.dropWhile_append_of_pos fun _ => isBlank_of_mem h

theorem trimStart_append_of_head {text : List Char} (hne : text ≠ [])
    (hhead : ∀ c ∈ text.head?, isBlank c = false) (rest : List Char) :
    trimStart (text ++ rest) = text ++ rest := by
  cases text with
  | nil => exact absurd rfl hne
  | cons c text =>
      have hc : isBlank c = false := hhead c rfl
      rw [trimStart, List.cons_append, List.dropWhile_cons_of_neg (by simp [hc])]

theorem trim_eq_nil_of_blank (h : isBlankText blanks = true) : trim blanks = [] := by
  have hstart : trimStart blanks = [] := List.dropWhile_eq_nil_iff.2 fun _ => isBlank_of_mem h
  rw [trim, hstart]
  rfl

/-- Trimming takes away exactly the blanks around an item. -/
theorem trim_padded (hbefore : isBlankText before = true) (hafter : isBlankText after = true)
    (hitem : IsCommaItem item) : trim (before ++ item ++ after) = item := by
  have hfront : trimStart (before ++ item ++ after) = item ++ after := by
    rw [List.append_assoc, trimStart_append_of_blank hbefore,
      trimStart_append_of_head hitem.ne_nil hitem.head]
  have hlast : ∀ c ∈ item.reverse.head?, isBlank c = false := by
    rw [List.head?_reverse]
    exact hitem.last
  have hback : trimStart (item ++ after).reverse = item.reverse := by
    have hne : item.reverse ≠ [] := List.reverse_ne_nil_iff.2 hitem.ne_nil
    have hstay := trimStart_append_of_head hne hlast []
    rw [List.append_nil] at hstay
    rw [List.reverse_append, trimStart_append_of_blank (isBlankText_reverse hafter), hstay]
  rw [trim, hfront, hback, List.reverse_reverse]

/-! ## Reading the items -/

theorem comma_not_mem_of_blank (h : isBlankText blanks = true) : ',' ∉ blanks := by
  intro hcomma
  exact absurd (isBlank_of_mem h hcomma) (by decide)

namespace PaddedItems

theorem no_comma (h : PaddedItems items pieces) : ∀ piece ∈ pieces, ',' ∉ piece := by
  induction h with
  | nil => simp
  | blank hblanks _ ih => exact List.forall_mem_cons.2 ⟨comma_not_mem_of_blank hblanks, ih⟩
  | item hbefore hafter hitem _ ih =>
      refine List.forall_mem_cons.2 ⟨?_, ih⟩
      simp only [List.mem_append, not_or]
      exact ⟨⟨comma_not_mem_of_blank hbefore, hitem.no_comma⟩, comma_not_mem_of_blank hafter⟩

theorem trimmed (h : PaddedItems items pieces) :
    (pieces.map trim).filter (· ≠ []) = items := by
  induction h with
  | nil => rfl
  | blank hblanks _ ih =>
      rw [List.map_cons, trim_eq_nil_of_blank hblanks, List.filter_cons_of_neg (by simp), ih]
  | item hbefore hafter hitem _ ih =>
      rw [List.map_cons, trim_padded hbefore hafter hitem,
        List.filter_cons_of_pos (by simpa using hitem.ne_nil), ih]

end PaddedItems

theorem commaItems_of_commaSeparated {text : List Char} (h : CommaSeparated items text) :
    commaItems text = items := by
  obtain ⟨pieces, hpieces, rfl⟩ := h
  rw [commaItems]
  cases pieces with
  | nil =>
      -- No pieces at all are joined to the empty text, which is split into one empty piece.
      cases hpieces
      rfl
  | cons piece rest =>
      rw [List.splitOn_intercalate _ hpieces.no_comma (List.cons_ne_nil piece rest),
        hpieces.trimmed]

end JavadocTags.Text
