import JavadocTags.Proofs.Java.BlockLines

/-!
# Comments are the text of their blocks

A comment is cut out of the lines of the whole text by two positions. Joined again its lines are the
text of the block, none of them runs on over a line end, and the lines that it starts and ends on
are those of the first and the last character of the block.
-/
namespace JavadocTags.Java

/-- A comment holds the text of a span line by line, and the lines that the span stands on. -/
structure HoldsSpan (text : List Char) (span : Span) (comment : DocComment) : Prop where
  joined : List.intercalate ['\n'] comment.lines = (text.take span.stop).drop span.start
  no_lineFeed : ∀ line ∈ comment.lines, '\n' ∉ line
  startLine : comment.startLine = 1 + (text.take span.start).count '\n'
  endLine : comment.endLine = 1 + (text.take (span.stop - 1)).count '\n'

theorem holdsSpan_blockAt {text : List Char} {span : Span} (h : span ∈ javadocSpans text) :
    HoldsSpan text span (blockAt text span) := by
  obtain ⟨hwidth, hbound⟩ := mem_javadocSpans_bounds h
  constructor
  · rw [lines_blockAt h, Text.lines, List.intercalate_splitOn, spanText]
  · intro line hline
    rw [lines_blockAt h] at hline
    exact Text.not_mem_of_mem_lines hline
  · rw [blockAt, commentBetween_startLine, positionIn_line_eq (by omega)]
    push_cast
    rfl
  · rw [endLine_blockAt h, positionIn_line_eq (by omega)]
    push_cast
    rfl

/-- The comments of a text are, block by block, the text of its blocks, and they know the lines on
which their blocks start and end. -/
theorem docComments_hold_spans (text : List Char) :
    List.Forall₂ (HoldsSpan (Text.unifyLineEnds text)) (javadocSpans (Text.unifyLineEnds text))
      (docComments (Text.unifyLineEnds text)) := by
  generalize Text.unifyLineEnds text = unified
  have hcomments : docComments unified = (javadocSpans unified).map (blockAt unified) := rfl
  rw [hcomments, List.forall₂_map_right_iff, List.forall₂_same]
  intro span hspan
  exact holdsSpan_blockAt hspan

end JavadocTags.Java
