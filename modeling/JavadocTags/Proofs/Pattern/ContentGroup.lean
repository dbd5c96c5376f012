import Mathlib.Data.List.TakeWhile
import JavadocTags.Proofs.Pattern.AppendedSuffix
import JavadocTags.Proofs.Pattern.TagSearch

/-!
# The content group

A tag that is a pattern by itself is completed to a pattern with one group more. The groups of the
tag keep to their own numbers, so the last group is marked by what is added alone: it begins behind
what the tag matched and the blanks after that. Where another branch than the last one matched, the
last group is not marked, and the content begins behind the match and its blanks. So no content
holds what the tag matched. Two tags are the exception: the one that ends in a comment, which takes
what is added for a part of itself, and the one that allows no repetitions, of which the blanks are
one.
-/
namespace JavadocTags.Pattern

open TagPattern (sourceOf)

/-! ## What is added -/

section Added
variable {text : Array Char} {flags : Flags} {place : Nat} {marks : Marks} {way : Way}

/-- The white space of a pattern is blank under all options. -/
theorem isBlank_of_admitsSet {c : Char}
    (h : admitsSet flags false [.category false .space] c = true) : Text.isBlank c = true := by
  have hspace : inCategory flags .space c.toNat = true := by
    simpa [admitsSet, SetItem.isCased, SetItem.admits] using h
  unfold inCategory at hspace
  simp only [Char.ofNat_toNat] at hspace
  split at hspace
  next =>
    simp only [Bool.or_eq_true, Bool.and_eq_true, decide_eq_true_eq, beq_iff_eq] at hspace
    simp only [Text.isBlank, Bool.or_eq_true, Bool.and_eq_true, decide_eq_true_eq, beq_iff_eq]
    omega
  next => exact hspace

/-- The content group is marked from where it begins to the end of the match. -/
theorem of_mem_ways_contentGroup {index : Nat} (hindex : 0 < index ∧ index ≤ marks.size)
    (h : way ∈ (contentGroup index).ways text flags place marks) :
    place ≤ way.1 ∧ (way.2.get index).span? = some (place, way.1) := by
  obtain ⟨inner, hinner, rfl⟩ := List.mem_map.1 h
  have hgroups : (Node.seq (.repetition .greedy 0 none .any) (.anchor .lineEnd)).GroupsBelow 0 :=
    ⟨trivial, trivial⟩
  -- The body of the group marks nothing, so the beginning noted before it is still there.
  have hreaches := Node.reaches_of_mem_ways hgroups hinner
  have hsize : inner.2.size = marks.size := hreaches.size_eq.trans Array.size_modify
  have hstart : (inner.2.get index).start = some place := by
    rw [hreaches.kept index (Nat.zero_le _), Marks.setStart, Marks.get_modify hindex]
  refine ⟨hreaches.forward, ?_⟩
  show (Marks.get (inner.2.setStop index inner.1) index).span? = some (place, inner.1)
  rw [Marks.setStop, Marks.get_modify (by rwa [hsize]), Mark.span?]
  simp only [hstart, if_pos hreaches.forward]

/-- What is added reads blanks, and then the content group begins. -/
theorem of_mem_ways_added {index : Nat} (hindex : 0 < index ∧ index ≤ marks.size)
    (h : way ∈ (Node.sequence [blanksNode, contentGroup index]).ways text flags place marks) :
    ∃ start, place ≤ start ∧ start ≤ way.1 ∧ (way.2.get index).span? = some (start, way.1) ∧
      ∀ i, place ≤ i → i < start → ∃ c, text[i]? = some c ∧ Text.isBlank c = true := by
  obtain ⟨⟨start, blanked⟩, hblanks, hcontent⟩ := List.mem_flatMap.1 h
  have htest : (start, blanked) ∈ testWays text .greedy 0 none
      (admitsSet flags false [.category false .space]) place marks := hblanks
  obtain ⟨rfl, hforward, hread⟩ := of_mem_testWays htest
  obtain ⟨hreached, hspan⟩ := of_mem_ways_contentGroup hindex hcontent
  refine ⟨start, hforward, hreached, hspan, fun i hle hlt => ?_⟩
  obtain ⟨c, hc, hadmits⟩ := hread i hle hlt
  exact ⟨c, hc, isBlank_of_admitsSet hadmits⟩

end Added

/-! ## Ways of the completed pattern -/

section Ways
variable {text : Array Char} {flags : Flags} {place : Nat} {marks : Marks} {way : Way}

/-- A way of the completed pattern comes from one of the fragment. Either the last group is not
marked, or it begins behind the blanks that follow. -/
theorem of_mem_ways_completed {fragment p : Pattern} (hcontent : HasContentGroup fragment p)
    (hgroups : fragment.node.GroupsBelow p.groups)
    (h : way ∈ p.node.ways text flags place (Array.replicate p.groups {})) :
    ∃ inner ∈ fragment.node.ways text flags place (Array.replicate p.groups {}),
      (inner.1 = way.1 ∧ (way.2.get p.groups).span? = none) ∨
        ∃ start, inner.1 ≤ start ∧ start ≤ way.1 ∧
          (way.2.get p.groups).span? = some (start, way.1) ∧
          ∀ i, inner.1 ≤ i → i < start → ∃ c, text[i]? = some c ∧ Text.isBlank c = true := by
  obtain ⟨branches, last, -, hfragment, hnode⟩ := hcontent.node_eq
  rw [hnode, mem_ways_alternation (by simp), List.map_append] at h
  obtain ⟨branch, hbranch, hway⟩ := h
  have hfrom {inner : Way} {branch : Node}
      (hmem : branch ∈ branches.map .sequence ++ [.sequence last])
      (hinner : inner ∈ branch.ways text flags place (Array.replicate p.groups {})) :
      inner ∈ fragment.node.ways text flags place (Array.replicate p.groups {}) := by
    rw [hfragment, mem_ways_alternation (by simp), List.map_append]
    exact ⟨branch, hmem, hinner⟩
  obtain hbranch | hbranch := List.mem_append.1 hbranch
  · have hinner := hfrom (List.mem_append_left _ hbranch) hway
    have hreaches := Node.reaches_of_mem_ways hgroups hinner
    refine ⟨way, hinner, .inl ⟨rfl, ?_⟩⟩
    rw [hreaches.kept p.groups (Nat.le_refl _), Marks.get_replicate]
    rfl
  · obtain rfl := List.mem_singleton.1 hbranch
    rw [ways_sequence_append last (List.cons_ne_nil _ _)] at hway
    obtain ⟨inner, hlast, hadded⟩ := List.mem_flatMap.1 hway
    have hinner := hfrom (List.mem_append_right _ List.mem_cons_self) hlast
    have hreaches := Node.reaches_of_mem_ways hgroups hinner
    have hindex : 0 < p.groups ∧ p.groups ≤ inner.2.size := by
      rw [hreaches.size_eq, Array.size_replicate, hcontent.groups_eq]
      exact ⟨Nat.succ_pos _, Nat.le_refl _⟩
    exact ⟨inner, hinner, .inr (of_mem_ways_added hindex hadded)⟩

end Ways

/-! ## The content of a match -/

/-- A pattern matches the part of a text from one place to another when none of a number of groups
is marked before. -/
def Node.Spans (node : Node) (flags : Flags) (groups : Nat) (text : List Char) (start stop : Nat) :
    Prop :=
  ∃ marks, node.run text.toArray flags start (Array.replicate groups {})
    (fun reached marks => if reached = stop then some (reached, marks) else none) =
      some (stop, marks)

theorem spans_of_mem_ways {node : Node} {flags : Flags} {groups start : Nat} {text : List Char}
    {way : Way} (h : way ∈ node.ways text.toArray flags start (Array.replicate groups {})) :
    node.Spans flags groups text start way.1 := by
  have hsome : (firstAccepted (node.ways text.toArray flags start (Array.replicate groups {}))
      fun reached marks => if reached = way.1 then some (reached, marks) else none).isSome := by
    refine List.findSome?_isSome_iff.2 ⟨way, h, ?_⟩
    simp only [if_true, Option.isSome_some]
  obtain ⟨⟨stop, marks⟩, hfound⟩ := Option.isSome_iff_exists.1 hsome
  obtain ⟨other, _, hother⟩ := List.exists_of_findSome?_eq_some hfound
  simp only at hother
  split at hother
  next heq =>
    cases hother
    exact ⟨other.2, by rw [Node.run_eq, hfound, heq]⟩
  next => cases hother

/-- A line falls into what precedes a match, what the fragment matched, blanks and the content. -/
def ContentFollows (fragment p : Pattern) (line : List Char) (start : Nat) (content : List Char) :
    Prop :=
  ∃ before matched blanks,
    line = before ++ (matched ++ (blanks ++ content)) ∧ before.length = start ∧
      fragment.node.Spans fragment.flags p.groups line start (start + matched.length) ∧
      ∀ c ∈ blanks, Text.isBlank c = true

/-- The characters between two places of a line are blank if each of them is. -/
theorem drop_eq_blanks_append {line : List Char} {stop start : Nat} (hle : stop ≤ start)
    (hblank : ∀ i, stop ≤ i → i < start → ∃ c, line.toArray[i]? = some c ∧ Text.isBlank c = true) :
    ∃ blanks, line.drop stop = blanks ++ line.drop start ∧
      ∀ c ∈ blanks, Text.isBlank c = true := by
  refine ⟨(line.drop stop).take (start - stop), ?_, fun c hc => ?_⟩
  · have hrest : (line.drop stop).drop (start - stop) = line.drop start := by
      rw [List.drop_drop, Nat.add_sub_cancel' hle]
    rw [← hrest, List.take_append_drop]
  · obtain ⟨i, hi⟩ := List.mem_iff_getElem?.1 hc
    rw [List.getElem?_take] at hi
    split at hi
    next hlt =>
      obtain ⟨d, hd, hdblank⟩ := hblank (stop + i) (Nat.le_add_right _ _) (by omega)
      rw [List.getElem?_toArray, ← List.getElem?_drop, hi] at hd
      exact Option.some.inj hd ▸ hdblank
    next => cases hi

/-- What a fragment matched, cut out of its line. -/
theorem contentFollows_of_spans {fragment p : Pattern} {line content blanks : List Char}
    {start stop : Nat} (hstart : start ≤ stop) (hstop : stop ≤ line.length)
    (hspans : fragment.node.Spans fragment.flags p.groups line start stop)
    (hrest : line.drop stop = blanks ++ content) (hblanks : ∀ c ∈ blanks, Text.isBlank c = true) :
    ContentFollows fragment p line start content := by
  have hbefore : (line.take start).length = start := List.length_take_of_le (by omega)
  have hmatched : ((line.drop start).take (stop - start)).length = stop - start :=
    List.length_take_of_le (by rw [List.length_drop]; omega)
  refine ⟨line.take start, (line.drop start).take (stop - start), blanks, ?_, hbefore, ?_, hblanks⟩
  · have hlast : (line.drop start).drop (stop - start) = blanks ++ content := by
      rw [List.drop_drop, Nat.add_sub_cancel' hstart, hrest]
    rw [← hlast, List.take_append_drop, List.take_append_drop]
  · rwa [hmatched, Nat.add_sub_cancel' hstart]

theorem contentFollows_of_search? {fragment p : Pattern} (hcontent : HasContentGroup fragment p)
    (hgroups : fragment.node.GroupsBelow p.groups) {line : List Char} {found : Match}
    (h : p.search? line = some found) :
    ContentFollows fragment p line found.start (TagPattern.content p line found) := by
  obtain ⟨hmatch, -, hle, -⟩ := Node.of_searchFrom_eq_some h
  obtain ⟨-, hway⟩ := Node.of_matchAt?_eq_some hmatch
  rw [List.size_toArray, Nat.zero_add] at hle
  rw [hcontent.flags_eq] at hway
  obtain ⟨inner, hinner, hlast⟩ := of_mem_ways_completed hcontent hgroups hway
  have hreaches := Node.reaches_of_mem_ways hgroups hinner
  have hinside : inner.1 ≤ line.length := hreaches.inside hle
  have hspans := spans_of_mem_ways hinner
  have hindex : p.groups ≠ 0 := by
    rw [hcontent.groups_eq]
    exact Nat.succ_ne_zero _
  obtain ⟨hstop, hspan⟩ | ⟨start, hforward, -, hspan, hblank⟩ := hlast
  · have hgroup : found.groupStart? p.groups = none := by
      rw [Match.groupStart?, if_neg hindex, hspan]
      rfl
    rw [TagPattern.content, hgroup]
    have hrest : line.drop inner.1 = (line.drop found.stop).takeWhile Text.isBlank ++
        Text.trimStart (line.drop found.stop) := by
      rw [hstop]
      exact List.takeWhile_append_dropWhile.symm
    exact contentFollows_of_spans hreaches.forward hinside hspans hrest
      fun c hc => List.mem_takeWhile_imp hc
  · have hgroup : found.groupStart? p.groups = some start := by
      rw [Match.groupStart?, if_neg hindex, hspan]
      rfl
    rw [TagPattern.content, hgroup]
    obtain ⟨blanks, hrest, hblanks⟩ := drop_eq_blanks_append hforward hblank
    exact contentFollows_of_spans hreaches.forward hinside hspans hrest hblanks

end JavadocTags.Pattern

namespace JavadocTags.TagPattern

open Pattern (ContentFollows HasContentGroup endsInComment)

theorem groupsBelow_of_compile [Unicode.CharacterNames] {source : String} {p : Pattern}
    (h : Pattern.compile source = .ok p) : p.node.GroupsBelow (p.groups + 1) := by
  obtain ⟨s, hread, -, rfl⟩ := Pattern.compile_eq_ok_iff.1 h
  exact Pattern.groupsBelow_of_readPattern hread

/-- A tag that is a pattern by itself is completed to a pattern with one group more, the last one,
behind its last branch, and the content of a match is what follows the text that the tag matched
and the blanks behind it, exactly if the tag does not end in a comment and does not forbid
repetitions. -/
theorem contentGroup_last_iff [Unicode.CharacterNames] {tag : String} {fragment : Pattern}
    (htag : tag ≠ "") (hfragment : Pattern.compile tag = .ok fragment) :
    (∃ p, compile tag false = .ok p ∧ HasContentGroup fragment p ∧
        ∀ lines, ∀ m ∈ find p lines, ∃ line found, lines[m.lineOffset]? = some line ∧
          p.search? line = some found ∧ ContentFollows fragment p line found.start m.content) ↔
      endsInComment tag.toList = false ∧ fragment.flags.template = false := by
  constructor
  · rintro ⟨p, hp, hcontent, -⟩
    rw [compile_eq_ok_iff htag] at hp
    cases hcomment : endsInComment tag.toList with
    | true =>
        -- The pattern has the groups of the fragment, and so not one more.
        rw [Pattern.compile_append_suffix_of_comment hfragment hcomment] at hp
        cases hp
        exact absurd hcontent.groups_eq (Nat.ne_of_lt (Nat.lt_succ_self _))
    | false =>
        refine ⟨rfl, Bool.eq_false_iff.2 fun htemplate => ?_⟩
        rw [Pattern.compile_append_suffix_of_template hfragment hcomment htemplate] at hp
        cases hp
  · rintro ⟨hcomment, htemplate⟩
    obtain ⟨p, hp, hcontent⟩ := Pattern.compile_append_suffix hfragment hcomment htemplate
    have hgroups : fragment.node.GroupsBelow p.groups :=
      hcontent.groups_eq ▸ groupsBelow_of_compile hfragment
    refine ⟨p, (compile_eq_ok_iff htag).2 hp, hcontent, fun lines m hm => ?_⟩
    obtain ⟨line, hline, hfound⟩ := mem_find.1 hm
    obtain ⟨found, hsearch, heq⟩ := Option.map_eq_some_iff.1 hfound
    rw [← heq]
    exact ⟨line, found, hline, hsearch,
      Pattern.contentFollows_of_search? hcontent hgroups hsearch⟩

open scoped Unicode.CharacterNames

def groupedTag : Pattern :=
  ⟨"@(a|b)", {}, 1, .seq (.code 64) (.group (some 1) {} {} (.alt (.code 97) (.code 98)))⟩

theorem compile_groupedTag [Unicode.CharacterNames] :
    Pattern.compile "@(a|b)" = .ok groupedTag := by
  cbv

theorem contentGroup_last_iff_groupedTag :
    "@(a|b)" ≠ "" ∧ Pattern.compile "@(a|b)" = .ok groupedTag ∧
      ∃ p, compile "@(a|b)" false = .ok p ∧ HasContentGroup groupedTag p ∧
        ∀ lines, ∀ m ∈ find p lines, ∃ line found, lines[m.lineOffset]? = some line ∧
          p.search? line = some found ∧ ContentFollows groupedTag p line found.start m.content := by
  have htag : "@(a|b)" ≠ "" := by decide
  have hcomment : endsInComment "@(a|b)".toList = false := by cbv
  exact ⟨htag, compile_groupedTag,
    (contentGroup_last_iff htag compile_groupedTag).2 ⟨hcomment, rfl⟩⟩

def commentedTag : Pattern :=
  ⟨"(?x)@a #c", { verbose := true }, 0, .seq (.code 64) (.code 97)⟩

/-- A tag that ends in a comment is a pattern by itself, but it gets no group more. -/
theorem not_contentGroup_last :
    ¬ ∀ tag fragment, tag ≠ "" → Pattern.compile tag = .ok fragment →
      ∃ p, compile tag false = .ok p ∧ p.groups = fragment.groups + 1 := by
  intro h
  have htag : "(?x)@a #c" ≠ "" := by decide
  have hfragment : Pattern.compile "(?x)@a #c" = .ok commentedTag := by cbv
  have hcomment : endsInComment "(?x)@a #c".toList = true := by cbv
  obtain ⟨p, hp, hgroups⟩ := h _ _ htag hfragment
  rw [compile_eq_ok_iff htag,
    Pattern.compile_append_suffix_of_comment hfragment hcomment] at hp
  cases hp
  cases hgroups

/-- The content of a match is then all from the tag on. -/
example : (compile "(?x)@a #c" false).map (find · ["@a x".toList]) =
    .ok [⟨0, "@a x".toList⟩] := by
  cbv

end JavadocTags.TagPattern
