import Mathlib
import JavadocTags.Proofs.Check.Emission
import JavadocTags.Proofs.Pattern.TagSearch

/-!
# The outcome of a visit

A visit has one of three outcomes. A check without a tag reports nothing. If there is no comment, or
no line of it has the tag, the tag is reported as missing, at the declaration. Otherwise there is
one report for each line that has the tag, in the order of the lines, and what it says depends on
the content of that line alone.
-/
namespace JavadocTags.TagSpec

/-- The report on a line of a comment that has the tag: the tag was found, unless there is a format
and the content does not have it. -/
def ReportsLine (spec : TagSpec) (tag : Tag) (d : Declaration) (path : String)
    (lines : List (List Char)) (i : Nat) (report : Diagnostic) : Prop :=
  ∃ line found, lines[i]? = some line ∧ tag.pattern.search? line = some found ∧
    ((∀ format ∈ spec.format,
        format.occursIn (TagPattern.content tag.pattern line found) = true) →
      report =
        { line := d.line + i - lines.length, column := d.column, key := .writeTag
          args := [tag.name, String.ofList (TagPattern.content tag.pattern line found)]
          severity := spec.tagSeverity, check := spec.id, path }) ∧
    ∀ format ∈ spec.format,
      format.occursIn (TagPattern.content tag.pattern line found) = false →
      report =
        { line := d.line + i - lines.length, column := d.column, key := .tagFormat
          args := [tag.name, format.source]
          severity := spec.severity, check := spec.id, path }

section Visit
variable {spec : TagSpec} {tag : Tag} {d : Declaration} {comments : CommentIndex} {path : String}
  {comment : Java.DocComment}

theorem reportsLine_found {lines : List (List Char)} {m : TagMatch}
    (hm : m ∈ TagPattern.find tag.pattern lines) :
    spec.ReportsLine tag d path lines m.lineOffset (spec.found tag d path lines.length m) := by
  obtain ⟨line, hline, hfind⟩ := TagPattern.mem_find.1 hm
  obtain ⟨found, hsearch, hcontent⟩ := Option.map_eq_some_iff.1 hfind
  refine ⟨line, found, hline, hsearch, ?_, ?_⟩
  · intro hformat
    rw [← hcontent]
    unfold TagSpec.found
    split
    · rfl
    · rename_i format heq
      rw [if_pos (hformat format heq)]
      rfl
  · intro format heq hformat
    rw [← hcontent]
    simp only [TagSpec.found, Option.mem_def.1 heq, hformat]
    rfl

theorem check_and_path_of_mem_visit {report : Diagnostic}
    (h : report ∈ spec.visit d comments path) : report.check = spec.id ∧ report.path = path := by
  obtain ⟨tag, _, rfl | ⟨comment, m, _, _, rfl⟩⟩ := of_mem_visit h
  · exact ⟨rfl, rfl⟩
  · obtain ⟨_, _, _, _, hfound⟩ := exists_found_eq spec tag d path comment.lines.length m
    rw [hfound]
    exact ⟨rfl, rfl⟩

@[simp] theorem visit_of_no_tag (htag : spec.tag = none) : spec.visit d comments path = [] := by
  rw [visit, htag]

theorem visit_of_no_match (htag : spec.tag = some tag)
    (h : ∀ comment, comments d.line = some comment →
      TagPattern.find tag.pattern comment.lines = []) :
    spec.visit d comments path = [spec.missing tag d path] := by
  rw [visit, htag]
  cases hcomment : comments d.line with
  | none => rfl
  | some comment =>
      simp only
      rw [h comment hcomment]

theorem visit_of_match (htag : spec.tag = some tag) (hcomment : comments d.line = some comment)
    (h : TagPattern.find tag.pattern comment.lines ≠ []) :
    spec.visit d comments path =
      (TagPattern.find tag.pattern comment.lines).map
        (spec.found tag d path comment.lines.length) := by
  rw [visit, htag, hcomment]
  simp only

end Visit

/-- What a visit returns, and what it tells a receiver: the receiver is told exactly what is
returned. -/
theorem visit_outcome {m : Type → Type} [Monad m] [LawfulMonad m] (sink : Option (Sink m))
    (received : Array Diagnostic) (spec : TagSpec) (d : Declaration) (comments : CommentIndex)
    (path : String) :
    (spec.visitInto d comments path sink = do
      forM (spec.visit d comments path) (Report.tell sink)
      return spec.visit d comments path) ∧
    Id.run ((spec.visitInto d comments path (some Report.collect)).run received) =
      (spec.visit d comments path, received ++ (spec.visit d comments path).toArray) ∧
    (∀ report ∈ spec.visit d comments path, report.check = spec.id ∧ report.path = path) ∧
    (spec.tag = none → spec.visit d comments path = []) ∧
    ∀ tag, spec.tag = some tag →
      ((∀ comment, comments d.line = some comment →
          ∀ line ∈ comment.lines, tag.pattern.search? line = none) →
        spec.visit d comments path =
          [{ line := d.line, column := d.column, key := .missingTag, args := [tag.name]
             severity := spec.severity, check := spec.id, path }]) ∧
      ∀ comment, comments d.line = some comment →
        (∃ line ∈ comment.lines, (tag.pattern.search? line).isSome = true) →
        ∃ offsets : List Nat, offsets.Pairwise (· < ·) ∧
          (∀ i, i ∈ offsets ↔
            ∃ line, comment.lines[i]? = some line ∧ (tag.pattern.search? line).isSome = true) ∧
          List.Forall₂ (spec.ReportsLine tag d path comment.lines) offsets
            (spec.visit d comments path) := by
  refine ⟨emits_visitInto sink spec d comments path,
    (emits_visitInto _ spec d comments path).run_collect received,
    fun _ => check_and_path_of_mem_visit, visit_of_no_tag, fun tag htag => ⟨?_, ?_⟩⟩
  · intro hnone
    exact visit_of_no_match htag fun comment hcomment =>
      TagPattern.find_eq_nil_iff.2 (hnone comment hcomment)
  · rintro comment hcomment ⟨line, hline, hsome⟩
    have hfind : TagPattern.find tag.pattern comment.lines ≠ [] := by
      intro hnil
      rw [TagPattern.find_eq_nil_iff.1 hnil line hline] at hsome
      cases hsome
    refine ⟨(TagPattern.find tag.pattern comment.lines).map TagMatch.lineOffset,
      List.pairwise_map.2 (TagPattern.find_pairwise _ _),
      fun i => TagPattern.mem_lineOffsets_find, ?_⟩
    rw [visit_of_match htag hcomment hfind, List.forall₂_map_left_iff, List.forall₂_map_right_iff,
      List.forall₂_same]
    intro m hm
    exact reportsLine_found hm

/-- A tag whose content has to hold the digit one. -/
def sinceOne : TagSpec :=
  { tag := some ⟨"@since", TagPattern.literal "@since"⟩
    format := some ⟨"1", {}, 0, .code 49⟩
    tagSeverity := .info
    severity := .error
    tokens := DeclarationKind.types
    id := .string "WriteTag" }

/-- A block with the tag on two lines, once with the digit and once without. -/
def sinceBlock : Java.DocComment :=
  ⟨["/** @since 1".toList, " * A class.".toList, " * @since x */".toList], 1⟩

theorem visit_outcome_sinceBlock :
    { sinceOne with tag := none }.visit ⟨.classType, "A", 4, 0⟩ (fun _ => some sinceBlock) "" =
      [] ∧
    sinceOne.visit ⟨.classType, "A", 4, 0⟩ (fun _ => none) "" =
      [{ line := 4, column := 0, key := .missingTag, args := ["@since"], severity := .error }] ∧
    Id.run ((sinceOne.visitInto ⟨.classType, "A", 4, 0⟩ (fun _ => some sinceBlock) ""
        (some Report.collect)).run #[]) =
      (sinceOne.visit ⟨.classType, "A", 4, 0⟩ (fun _ => some sinceBlock) "",
        (sinceOne.visit ⟨.classType, "A", 4, 0⟩ (fun _ => some sinceBlock) "").toArray) ∧
    (∃ line ∈ sinceBlock.lines,
      ((TagPattern.literal "@since").search? line).isSome = true) ∧
    ∃ offsets : List Nat, offsets.Pairwise (· < ·) ∧ 0 ∈ offsets ∧ 1 ∉ offsets ∧ 2 ∈ offsets ∧
      List.Forall₂ (sinceOne.ReportsLine ⟨"@since", TagPattern.literal "@since"⟩
          ⟨.classType, "A", 4, 0⟩ "" sinceBlock.lines) offsets
        (sinceOne.visit ⟨.classType, "A", 4, 0⟩ (fun _ => some sinceBlock) "") := by
  obtain ⟨_, _, _, hnoTag, _⟩ := visit_outcome (m := Id) none #[] { sinceOne with tag := none }
    ⟨.classType, "A", 4, 0⟩ (fun _ => some sinceBlock) ""
  obtain ⟨_, _, _, _, hnone⟩ := visit_outcome (m := Id) none #[] sinceOne
    ⟨.classType, "A", 4, 0⟩ (fun _ => none) ""
  obtain ⟨_, htold, _, _, hsome⟩ := visit_outcome (m := Id) none #[] sinceOne
    ⟨.classType, "A", 4, 0⟩ (fun _ => some sinceBlock) ""
  have hfirst : ((TagPattern.literal "@since").search? "/** @since 1".toList).isSome = true := by
    cbv
  have hsecond : ((TagPattern.literal "@since").search? " * A class.".toList).isSome = false := by
    cbv
  have hthird : ((TagPattern.literal "@since").search? " * @since x */".toList).isSome = true := by
    cbv
  have hmatch : ∃ line ∈ sinceBlock.lines,
      ((TagPattern.literal "@since").search? line).isSome = true :=
    ⟨"/** @since 1".toList, List.mem_cons_self, hfirst⟩
  obtain ⟨offsets, hsorted, hoffsets, hreports⟩ := (hsome _ rfl).2 sinceBlock rfl hmatch
  rw [Array.empty_append] at htold
  have hmissing := (hnone _ rfl).1 (by
    intro comment h
    cases h)
  refine ⟨hnoTag rfl, hmissing, htold, hmatch, offsets, hsorted,
    (hoffsets 0).2 ⟨_, rfl, hfirst⟩, ?_, (hoffsets 2).2 ⟨_, rfl, hthird⟩, hreports⟩
  intro hmem
  obtain ⟨line, hline, hfound⟩ := (hoffsets 1).1 hmem
  have heq : line = " * A class.".toList := (Option.some.inj hline).symm
  rw [heq, hsecond] at hfound
  cases hfound

end JavadocTags.TagSpec
