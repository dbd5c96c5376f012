import Mathlib.Data.List.Basic
import JavadocTags.Proofs.Pattern.LiteralTag

/-!
# Searching the lines of a comment

Whatever the pattern, a search has one match for each line that the pattern matches, in the order
of the lines. With a literal tag these are the lines in which the tag occurs, and the content is
what follows its first occurrence.
-/
namespace JavadocTags.TagPattern

open Pattern (literalNode afterFirst? FirstOccurrence)

theorem lineOffset_of_findInLine? {p : Pattern} {line : List Char} {offset : Nat} {m : TagMatch}
    (h : findInLine? p line offset = some m) : m.lineOffset = offset := by
  obtain ⟨found, _, rfl⟩ := Option.map_eq_some_iff.1 h
  rfl

theorem mem_find {p : Pattern} {lines : List (List Char)} {m : TagMatch} :
    m ∈ find p lines ↔
      ∃ line, lines[m.lineOffset]? = some line ∧ findInLine? p line m.lineOffset = some m := by
  rw [find, List.mem_filterMap]
  constructor
  · rintro ⟨⟨line, offset⟩, hentry, hfound⟩
    have hoffset : m.lineOffset = offset := lineOffset_of_findInLine? hfound
    rw [hoffset]
    exact ⟨line, List.mem_zipIdx_iff_getElem?.1 hentry, hfound⟩
  · rintro ⟨line, hline, hfound⟩
    exact ⟨(line, m.lineOffset), List.mem_zipIdx_iff_getElem?.2 hline, hfound⟩

theorem pairwise_zipIdx {α : Type} (items : List α) (first : Nat) :
    (items.zipIdx first).Pairwise (fun a b => a.2 < b.2) := by
  have hsnd : ((items.zipIdx first).map Prod.snd).Pairwise (· < ·) := by
    rw [List.zipIdx_map_snd]
    exact List.pairwise_lt_range'
  exact List.pairwise_map.1 hsnd

/-- A search visits the lines in order, and no line twice. -/
theorem find_pairwise (p : Pattern) (lines : List (List Char)) :
    (find p lines).Pairwise (fun m n => m.lineOffset < n.lineOffset) := by
  refine (pairwise_zipIdx lines 0).filterMap _ ?_
  rintro ⟨line, i⟩ ⟨other, j⟩ hlt m hm n hn
  rw [lineOffset_of_findInLine? hm, lineOffset_of_findInLine? hn]
  exact hlt

/-- The lines of the matches are those in which the pattern is found. -/
theorem mem_lineOffsets_find {p : Pattern} {lines : List (List Char)} {i : Nat} :
    i ∈ (find p lines).map TagMatch.lineOffset ↔
      ∃ line, lines[i]? = some line ∧ (p.search? line).isSome = true := by
  rw [List.mem_map]
  constructor
  · rintro ⟨m, hm, rfl⟩
    obtain ⟨line, hline, hfound⟩ := mem_find.1 hm
    obtain ⟨found, hsearch, _⟩ := Option.map_eq_some_iff.1 hfound
    exact ⟨line, hline, by rw [hsearch]; rfl⟩
  · rintro ⟨line, hline, hsome⟩
    obtain ⟨found, hsearch⟩ := Option.isSome_iff_exists.1 hsome
    refine ⟨⟨i, content p line found⟩, mem_find.2 ⟨line, hline, ?_⟩, rfl⟩
    rw [findInLine?, hsearch, Option.map_some]

theorem find_eq_nil_iff {p : Pattern} {lines : List (List Char)} :
    find p lines = [] ↔ ∀ line ∈ lines, p.search? line = none := by
  rw [← List.map_eq_nil_iff (f := TagMatch.lineOffset), List.eq_nil_iff_forall_not_mem]
  constructor
  · intro h line hline
    obtain ⟨i, hi⟩ := List.mem_iff_getElem?.1 hline
    have hnone := mt mem_lineOffsets_find.2 (h i)
    rw [← Option.not_isSome_iff_eq_none]
    exact fun hsome => hnone ⟨line, hi, hsome⟩
  · intro h i hi
    obtain ⟨line, hline, hsome⟩ := mem_lineOffsets_find.1 hi
    rw [h line (List.mem_of_getElem? hline)] at hsome
    cases hsome

theorem compile_eq_ok_iff [Unicode.CharacterNames] {tag : String} {literal : Bool}
    (htag : tag ≠ "") {p : Pattern} :
    compile tag literal = .ok p ↔ Pattern.compile (sourceOf tag literal) = .ok p := by
  have hempty : tag.isEmpty = false := by simpa using htag
  simp only [compile, hempty, Bool.false_eq_true, if_false]
  cases Pattern.compile (sourceOf tag literal) <;> simp [Except.mapError]

def literal (tag : String) : Pattern :=
  ⟨sourceOf tag true, {}, 1, literalNode tag.toList⟩

theorem compile_literal [Unicode.CharacterNames] {tag : String} (htag : tag ≠ "") :
    compile tag true = .ok (literal tag) :=
  (compile_eq_ok_iff htag).2 (Pattern.compile_literal tag)

theorem exists_firstOccurrence_iff {tag line : List Char} :
    (∃ before rest, FirstOccurrence tag line before rest) ↔ tag <:+: line := by
  rw [← not_iff_not, ← Pattern.afterFirst?_eq_none_iff, Option.eq_none_iff_forall_ne_some]
  simp only [ne_eq, Pattern.afterFirst?_eq_some_iff]
  exact ⟨fun h rest ⟨before, hfirst⟩ => h ⟨before, rest, hfirst⟩,
    fun h ⟨before, rest, hfirst⟩ => h rest ⟨before, hfirst⟩⟩

theorem mem_find_literal {tag : String} {lines : List (List Char)}
    (hlines : ∀ line ∈ lines, '\n' ∉ line) {m : TagMatch} :
    m ∈ find (literal tag) lines ↔
      ∃ line before rest, lines[m.lineOffset]? = some line ∧
        FirstOccurrence tag.toList line before rest ∧ m.content = Text.trimStart rest := by
  rw [mem_find]
  constructor
  · rintro ⟨line, hline, hfound⟩
    rw [literal, Pattern.findInLine?_literal (hlines line (List.mem_of_getElem? hline)),
      Option.map_eq_some_iff] at hfound
    obtain ⟨rest, hrest, hm⟩ := hfound
    obtain ⟨before, hfirst⟩ := Pattern.afterFirst?_eq_some_iff.1 hrest
    exact ⟨line, before, rest, hline, hfirst, by rw [← hm]⟩
  · rintro ⟨line, before, rest, hline, hfirst, hcontent⟩
    refine ⟨line, hline, ?_⟩
    rw [literal, Pattern.findInLine?_literal (hlines line (List.mem_of_getElem? hline)),
      Pattern.afterFirst?_eq_some_iff.2 ⟨before, hfirst⟩, Option.map_some, ← hcontent]

@[simp] theorem find_singleton (p : Pattern) (line : List Char) :
    find p [line] = (findInLine? p line 0).toList := by
  cases hfound : findInLine? p line 0 with
  | none => simp [find, hfound]
  | some m => simp [find, hfound]

theorem find_literal_singleton {line : List Char} (hline : '\n' ∉ line) (tag : String) :
    find (literal tag) [line] =
      ((afterFirst? tag.toList line).map fun rest => ⟨0, Text.trimStart rest⟩).toList := by
  rw [find_singleton, literal, Pattern.findInLine?_literal hline]

/-- A literal tag compiles, and the search for it is a search for its text: there is one match for
each line that holds the tag, in order, and the content is the rest of the line behind the first
occurrence of the tag, without leading blanks. -/
theorem literal_tag_search [Unicode.CharacterNames] {tag : String} (htag : tag ≠ "") :
    ∃ p, compile tag true = .ok p ∧
      (∀ line, '\n' ∉ line →
        (find p [line] ≠ [] ↔ tag.toList <:+: line) ∧
        ∀ before rest, FirstOccurrence tag.toList line before rest →
          find p [line] = [⟨0, Text.trimStart rest⟩]) ∧
      ∀ lines : List (List Char), (∀ line ∈ lines, '\n' ∉ line) →
        (find p lines).Pairwise (fun m n => m.lineOffset < n.lineOffset) ∧
        (∀ i, (∃ m ∈ find p lines, m.lineOffset = i) ↔
          ∃ line, lines[i]? = some line ∧ tag.toList <:+: line) ∧
        ∀ m, m ∈ find p lines ↔
          ∃ line before rest, lines[m.lineOffset]? = some line ∧
            FirstOccurrence tag.toList line before rest ∧ m.content = Text.trimStart rest := by
  refine ⟨literal tag, compile_literal htag, fun line hline => ⟨?_, ?_⟩, fun lines hlines => ?_⟩
  · rw [find_literal_singleton hline, ne_eq, Option.toList_eq_nil_iff, Option.map_eq_none_iff,
      Pattern.afterFirst?_eq_none_iff, not_not]
  · intro before rest hfirst
    rw [find_literal_singleton hline, Pattern.afterFirst?_eq_some_iff.2 ⟨before, hfirst⟩]
    rfl
  · refine ⟨find_pairwise _ lines, fun i => ?_, fun m => mem_find_literal hlines⟩
    constructor
    · rintro ⟨m, hm, rfl⟩
      obtain ⟨line, before, rest, hline, hfirst, _⟩ := (mem_find_literal hlines).1 hm
      exact ⟨line, hline, exists_firstOccurrence_iff.1 ⟨before, rest, hfirst⟩⟩
    · rintro ⟨line, hline, htagIn⟩
      obtain ⟨before, rest, hfirst⟩ := exists_firstOccurrence_iff.2 htagIn
      exact ⟨⟨i, Text.trimStart rest⟩,
        (mem_find_literal hlines).2 ⟨line, before, rest, hline, hfirst, rfl⟩, rfl⟩

open scoped Unicode.CharacterNames

/-- Lines with a tag that is full of characters with a meaning in patterns. -/
def markedLines : List (List Char) :=
  [" * @see(+) a @see(+) b".toList, " * @seee".toList, "@see(+)".toList]

theorem literal_tag_search_markedLines :
    "@see(+)" ≠ "" ∧ (∀ line ∈ markedLines, '\n' ∉ line) ∧
      ∃ p, compile "@see(+)" true = .ok p ∧
        find p [" * @see(+) a @see(+) b".toList] = [⟨0, "a @see(+) b".toList⟩] ∧
        (∃ m ∈ find p markedLines, m.lineOffset = 0) ∧
        (¬ ∃ m ∈ find p markedLines, m.lineOffset = 1) ∧
        ∃ m ∈ find p markedLines, m.lineOffset = 2 := by
  have htag : "@see(+)" ≠ "" := by decide
  have hlines : ∀ line ∈ markedLines, '\n' ∉ line := by decide
  have hafter : afterFirst? "@see(+)".toList " * @see(+) a @see(+) b".toList =
      some " a @see(+) b".toList := by cbv
  have hnone : afterFirst? "@see(+)".toList " * @seee".toList = none := by cbv
  have htrim : Text.trimStart " a @see(+) b".toList = "a @see(+) b".toList := by decide
  obtain ⟨before, hfirst⟩ := Pattern.afterFirst?_eq_some_iff.1 hafter
  obtain ⟨p, hp, hline, hfind⟩ := literal_tag_search htag
  obtain ⟨_, hmatched, _⟩ := hfind markedLines hlines
  have hsingle := (hline " * @see(+) a @see(+) b".toList (by decide)).2 before _ hfirst
  rw [htrim] at hsingle
  refine ⟨htag, hlines, p, hp, hsingle, ?_, ?_, ?_⟩
  · exact (hmatched 0).2 ⟨" * @see(+) a @see(+) b".toList, rfl,
      exists_firstOccurrence_iff.1 ⟨before, _, hfirst⟩⟩
  · rw [hmatched 1]
    rintro ⟨line, hget, hinfix⟩
    have hline : line = " * @seee".toList := (Option.some.inj hget).symm
    rw [hline] at hinfix
    exact Pattern.afterFirst?_eq_none_iff.1 hnone hinfix
  · exact (hmatched 2).2 ⟨"@see(+)".toList, rfl, List.infix_rfl⟩

end JavadocTags.TagPattern
