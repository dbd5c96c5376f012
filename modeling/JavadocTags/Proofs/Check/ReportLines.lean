import JavadocTags.Proofs.Check.VisitOutcome
import JavadocTags.Proofs.Java.BlockLines

/-!
# The lines that reports name

The line of a report is counted back from the declaration, as if the block ended just above it. So a
report on a line of the block names a line that lies below the right one by as many lines as the
lookup has skipped. It names the right one just when there is nothing to skip.
-/
namespace JavadocTags.TagSpec

open Java (Source BlockLineOn blockAt javadocSpans lastLineOf)

section Visit
variable {spec : TagSpec} {tag : Tag} {d : Declaration} {comments : CommentIndex} {path : String}
  {comment : Java.DocComment}

@[simp] theorem found_line (total : Nat) (m : TagMatch) :
    (spec.found tag d path total m).line = d.line + m.lineOffset - total := by
  obtain ⟨_, _, _, _, hfound⟩ := exists_found_eq spec tag d path total m
  rw [hfound]
  rfl

theorem found_key_ne (spec : TagSpec) (tag : Tag) (d : Declaration) (path : String) (total : Nat)
    (m : TagMatch) : (spec.found tag d path total m).key ≠ .missingTag := by
  obtain ⟨key, _, _, hkey, hfound⟩ := exists_found_eq spec tag d path total m
  rw [hfound]
  exact hkey

/-- A report that no tag is missing is on a line of the comment that has the tag. -/
theorem exists_match_of_mem_visit {report : Diagnostic} (h : report ∈ spec.visit d comments path)
    (hkey : report.key ≠ .missingTag) :
    ∃ (tag : Tag) (comment : Java.DocComment) (i : Nat) (content : List Char),
      spec.tag = some tag ∧ comments d.line = some comment ∧ comment.lines[i]? = some content ∧
      (tag.pattern.search? content).isSome = true ∧
      report.line = d.line + i - comment.lines.length := by
  obtain ⟨tag, htag, rfl | ⟨comment, m, hcomment, hm, rfl⟩⟩ := of_mem_visit h
  · exact absurd rfl hkey
  · obtain ⟨content, hcontent, hsome⟩ := TagPattern.mem_lineOffsets_find.1 (List.mem_map_of_mem hm)
    exact ⟨tag, comment, m.lineOffset, content, htag, hcomment, hcontent, hsome, found_line _ m⟩

/-- The reports of a visit come in the order of the lines that they name. -/
theorem visit_pairwise (spec : TagSpec) (d : Declaration) (comments : CommentIndex)
    (path : String) : (spec.visit d comments path).Pairwise (·.line < ·.line) := by
  unfold visit
  split
  · exact List.Pairwise.nil
  · rename_i tag _
    split
    · exact List.pairwise_singleton _ _
    · rename_i comment _
      split
      · exact List.pairwise_singleton _ _
      · rw [List.pairwise_map]
        refine (TagPattern.find_pairwise tag.pattern comment.lines).imp fun hlt => ?_
        rw [found_line, found_line]
        omega

end Visit

/-- A report on line `i` of the block at a span, which documents the declaration. This line holds
the tag and stands on line `number` of the text, and the report names the line that lies below it by
as many lines as are skipped between the block and the declaration. -/
structure OnBlockLine (spec : TagSpec) (path : String) (text : List Char) (d : Declaration)
    (report : Diagnostic) (tag : Tag) (span : Java.Span) (i : Nat) (content : List Char)
    (number : Nat) : Prop where
  tag_eq : spec.tag = some tag
  span_mem : span ∈ javadocSpans (Text.unifyLineEnds text)
  block_eq : (Source.ofText path text).javadocBefore? d.line =
    some (blockAt (Text.unifyLineEnds text) span)
  line_eq : (blockAt (Text.unifyLineEnds text) span).lines[i]? = some content
  has_tag : (tag.pattern.search? content).isSome = true
  stands : BlockLineOn (Text.unifyLineEnds text) span i content number
  skipped : ∀ n : Nat, lastLineOf (Text.unifyLineEnds text) span < n → (n : Int) < d.line →
    (Source.ofText path text).isSkippable n = true
  named : report.line = number + ((Source.ofText path text).skippableBetween
    (lastLineOf (Text.unifyLineEnds text) span) d.line).length

/-- The reports of a source are those of its declarations. What is reported at a declaration, unless
its tag is missing, is about a line of the block that documents it. The report names the very line
of the text just when the block ends on the line above the declaration, it always names a line above
the declaration, and the lines that are named increase. -/
theorem report_line_of_block (path : String) (text : List Char) (spec : TagSpec) :
    spec.checkSource (Source.ofText path text) =
      ((Source.ofText path text).declarations.filter spec.covers).flatMap (fun d =>
        spec.visit d (Source.ofText path text).javadocBefore? path) ∧
    ∀ d ∈ (Source.ofText path text).declarations,
      (∀ report ∈ spec.visit d (Source.ofText path text).javadocBefore? path,
        report.key ≠ .missingTag →
        ∃ tag span i content number,
          spec.OnBlockLine path text d report tag span i content number ∧
          (report.line = number ↔ (lastLineOf (Text.unifyLineEnds text) span : Int) + 1 = d.line) ∧
          1 ≤ report.line ∧ report.line < d.line) ∧
      (spec.visit d (Source.ofText path text).javadocBefore? path).Pairwise (·.line < ·.line) := by
  refine ⟨rfl, fun d _ => ⟨fun report hreport hkey => ?_, visit_pairwise spec d _ path⟩⟩
  obtain ⟨tag, comment, i, content, htag, hcomment, hcontent, hsearch, hline⟩ :=
    exists_match_of_mem_visit hreport hkey
  obtain ⟨span, hspan, rfl, habove, hskip⟩ := Java.exists_span_of_javadocBefore? hcomment
  have hskipped := Java.length_skippableBetween hskip
  have hlast := Java.lastLineOf_eq hspan
  have hlength := (List.getElem?_eq_some_iff.1 hcontent).1
  have hstart : 0 < (Java.positionIn (Text.unifyLineEnds text) span.start).line := by
    have hbounds := Java.mem_javadocSpans_bounds hspan
    exact Java.positionIn_line_pos (by omega)
  have hstands := Java.blockLineOn_of_getElem? hspan hcontent
  refine ⟨tag, span, i, content, _, ⟨htag, hspan, hcomment, hcontent, hsearch, hstands, hskip, ?_⟩,
    ?_, ?_, ?_⟩
  · omega
  · omega
  · omega
  · omega

/-- A block of three lines with the tag on the second one, above a blank line and a line comment. -/
def taggedBlock : List Char :=
  "/**\n * @since 1\n */\n\n// b\nclass A \x7b\x7d".toList

theorem javadocBefore?_taggedBlock : (Source.ofText "" taggedBlock).javadocBefore? 6 =
    some ⟨["/**".toList, " * @since 1".toList, " */".toList], 1⟩ := by
  cbv

theorem find_taggedBlock : TagPattern.find (TagPattern.literal "@since")
    ["/**".toList, " * @since 1".toList, " */".toList] = [⟨1, ['1']⟩] := by
  cbv

theorem visit_taggedBlock : sinceOne.visit ⟨.classType, "A", 6, 0⟩
    (Source.ofText "" taggedBlock).javadocBefore? "" =
      [sinceOne.found ⟨"@since", TagPattern.literal "@since"⟩ ⟨.classType, "A", 6, 0⟩ "" 3
        ⟨1, ['1']⟩] := by
  have hmatch := List.cons_ne_nil (⟨1, ['1']⟩ : TagMatch) []
  rw [← find_taggedBlock] at hmatch
  have hvisit := @visit_of_match sinceOne ⟨"@since", TagPattern.literal "@since"⟩
    ⟨.classType, "A", 6, 0⟩ _ "" _ rfl javadocBefore?_taggedBlock hmatch
  rw [find_taggedBlock] at hvisit
  exact hvisit

/-- The report names line 4, since two lines are skipped. -/
theorem report_line_of_block_taggedBlock :
    (⟨.classType, "A", 6, 0⟩ : Declaration) ∈ (Source.ofText "" taggedBlock).declarations ∧
      ∃ report, sinceOne.visit ⟨.classType, "A", 6, 0⟩ (Source.ofText "" taggedBlock).javadocBefore?
          "" = [report] ∧ report.key ≠ .missingTag ∧ report.line = 4 ∧
        ∃ tag span i content number, sinceOne.OnBlockLine "" taggedBlock ⟨.classType, "A", 6, 0⟩
          report tag span i content number := by
  have hd : (⟨.classType, "A", 6, 0⟩ : Declaration) ∈
      (Source.ofText "" taggedBlock).declarations := by decide_cbv
  have hmissing := found_key_ne sinceOne ⟨"@since", TagPattern.literal "@since"⟩
    ⟨.classType, "A", 6, 0⟩ "" 3 ⟨1, ['1']⟩
  have hreports := ((report_line_of_block "" taggedBlock sinceOne).2 _ hd).1
  rw [visit_taggedBlock] at hreports
  obtain ⟨tag, span, i, content, number, honLine, _⟩ := hreports _ List.mem_cons_self hmissing
  exact ⟨hd, _, visit_taggedBlock, hmissing, found_line 3 _, tag, span, i, content, number, honLine⟩

end JavadocTags.TagSpec
