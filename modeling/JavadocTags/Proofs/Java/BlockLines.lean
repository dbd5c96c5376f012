import JavadocTags.Proofs.Java.NearestJavadoc

/-!
# The lines of a block

The lines of a block are cut out of the lines of the whole text by the positions of its first and
its last character. They are the lines of the text of the block, so each of them stands on a line of
its own in the whole text, counted from the one that the block starts on.
-/
namespace JavadocTags.Java

open Text (Position)

def spanText (text : List Char) (span : Span) : List Char :=
  (text.take span.stop).drop span.start

/-- Line `i` of the text of a block is `content`, and it begins on line `number` of the text. -/
def BlockLineOn (text : List Char) (span : Span) (i : Nat) (content : List Char) (number : Nat) :
    Prop :=
  ∃ before after, spanText text span = before ++ content ++ after ∧
    before.count '\n' = i ∧ '\n' ∉ content ∧
    (before = [] ∨ ∃ front, before = front ++ ['\n']) ∧
    (after = [] ∨ ∃ rest, after = '\n' :: rest) ∧
    (positionIn text (span.start + before.length)).line = number

theorem lines_commentBetween_of_append {lines inner rest : List (List Char)}
    {final opening : List Char} {first last : Position}
    (hblock : (lines.take last.line).drop (first.line - 1) = inner ++ [final])
    (hcut : inner ++ [final.take (last.column + 1)] = opening :: rest) :
    (commentBetween lines first last).lines = opening.drop first.column :: rest := by
  have hreverse : (inner ++ [final]).reverse = final :: inner.reverse := by simp
  have hback : (final.take (last.column + 1) :: inner.reverse).reverse = opening :: rest := by
    rw [← hcut]
    simp
  simp only [commentBetween, hblock, hreverse, hback]

/-- Cutting lines by the positions of the first and the last character of a part gives the lines of
the part. -/
theorem lines_commentBetween (before part after : List Char) {last : Char} (hlast : last ≠ '\n') :
    (commentBetween (Text.lines (before ++ (part ++ [last]) ++ after))
      (Position.origin.after before) (Position.origin.after (before ++ part))).lines =
        Text.lines (part ++ [last]) := by
  obtain ⟨above, opening, first, rest, habove, hpart, hfront, hstart⟩ :=
    Text.exists_lines_append before (part ++ [last])
  obtain ⟨whole, final, tail, below, hwhole, _, htext, hend⟩ :=
    Text.exists_lines_append (before ++ (part ++ [last])) after
  have hfirst : Position.origin.after before = ⟨1 + above.length, opening.length⟩ := hstart 1
  -- The position behind the part is one column behind that of its last character.
  have hbehind : (Position.origin.after (before ++ part)).advance last =
      ⟨1 + whole.length, final.length⟩ := by
    rw [← hend 1, ← List.append_assoc, Position.after_append _ (before ++ part)]
    rfl
  rw [Position.advance_of_ne _ hlast, Position.mk.injEq] at hbehind
  obtain ⟨hline, hcolumn⟩ := hbehind
  have htake : (whole ++ (final ++ tail) :: below).take (1 + whole.length) =
      whole ++ [final ++ tail] := by
    rw [List.append_cons, Nat.add_comm, List.take_left' (by simp)]
  have hjoined : whole ++ [final] = above ++ (opening ++ first) :: rest := hwhole.symm.trans hfront
  have hlength : above.length ≤ whole.length := by
    have hlengths := congrArg List.length hjoined
    simp only [List.length_append, List.length_cons, List.length_nil] at hlengths
    omega
  have hdrop : whole.drop above.length ++ [final] = (opening ++ first) :: rest := by
    rw [← List.drop_append_of_le_length hlength, hjoined, List.drop_left]
  have hblock : ((whole ++ (final ++ tail) :: below).take (1 + whole.length)).drop
      (1 + above.length - 1) = whole.drop above.length ++ [final ++ tail] := by
    rw [htake, Nat.add_sub_cancel_left, List.drop_append_of_le_length hlength]
  rw [htext, hfirst, hpart, lines_commentBetween_of_append (hline ▸ hblock)
    (by rw [hcolumn, List.take_left, hdrop]), List.drop_left]

section Span
variable {text : List Char} {span : Span}

theorem lines_blockAt (h : span ∈ javadocSpans text) :
    (blockAt text span).lines = Text.lines (spanText text span) := by
  obtain ⟨hwidth, hbound⟩ := mem_javadocSpans_bounds h
  obtain ⟨_, _, _, _, _, _, _, hslash⟩ := exists_segment_of_span h
  have htake : text.take span.stop = text.take (span.stop - 1) ++ ['/'] := by
    have hsucc : span.stop = span.stop - 1 + 1 := by omega
    rw [hsucc, List.take_add_one, Nat.add_sub_cancel, hslash]
    rfl
  have hpart : spanText text span = (text.take (span.stop - 1)).drop span.start ++ ['/'] := by
    rw [spanText, htake, List.drop_append_of_le_length]
    rw [List.length_take]
    omega
  have hfront : text.take (span.stop - 1) =
      text.take span.start ++ (text.take (span.stop - 1)).drop span.start := by
    have hstart : text.take span.start = (text.take (span.stop - 1)).take span.start := by
      rw [List.take_take, Nat.min_eq_left (by omega)]
    rw [hstart, List.take_append_drop]
  have htext : text = text.take span.start ++
      ((text.take (span.stop - 1)).drop span.start ++ ['/']) ++ text.drop span.stop := by
    rw [← List.append_assoc, ← hfront, ← htake, List.take_append_drop]
  have hlines := lines_commentBetween (text.take span.start)
    ((text.take (span.stop - 1)).drop span.start) (text.drop span.stop) (show '/' ≠ '\n' by decide)
  rw [← htext, ← hfront] at hlines
  rw [blockAt, positionIn_eq (by omega), positionIn_eq (by omega), hlines, hpart]

/-- A line of a block stands as many lines below its first one as it comes after it. -/
theorem blockLineOn_of_getElem? (h : span ∈ javadocSpans text) {i : Nat} {content : List Char}
    (hcontent : (blockAt text span).lines[i]? = some content) :
    BlockLineOn text span i content ((positionIn text span.start).line + i) := by
  obtain ⟨hwidth, hbound⟩ := mem_javadocSpans_bounds h
  rw [lines_blockAt h] at hcontent
  obtain ⟨before, after, hblock, hcount, hline, hbefore, hafter⟩ :=
    Text.exists_of_getElem?_lines hcontent
  refine ⟨before, after, hblock, hcount, hline, hbefore, hafter, ?_⟩
  have htext :
      text = text.take span.start ++ before ++ (content ++ after ++ text.drop span.stop) := by
    have hstart : text.take span.start = (text.take span.stop).take span.start := by
      rw [List.take_take, Nat.min_eq_left (by omega)]
    have hsplit : text.take span.stop = text.take span.start ++ (before ++ content ++ after) := by
      rw [hstart, ← hblock, spanText, List.take_append_drop]
    conv_lhs => rw [← List.take_append_drop span.stop text, hsplit]
    simp only [List.append_assoc]
  have hlength : (text.take span.start).length = span.start := by
    rw [List.length_take]
    omega
  have hposition := positionIn_append (text.take span.start ++ before)
    (content ++ after ++ text.drop span.stop)
  rw [← htext, List.length_append, hlength] at hposition
  rw [hposition, Position.after_append, Position.after_line, hcount, ← positionIn_eq (by omega)]

theorem lastLineOf_eq (h : span ∈ javadocSpans text) :
    lastLineOf text span + 1 =
      (positionIn text span.start).line + (blockAt text span).lines.length := by
  have hend := endLine_blockAt h
  rw [DocComment.endLine, blockAt, commentBetween_startLine, ← blockAt] at hend
  rw [lastLineOf]
  omega

end Span

/-- The lines between two lines that are blank or look like line comments. -/
def Source.skippableBetween (source : Source) (upper : Nat) (lower : Int) : List Nat :=
  (List.range' (upper + 1) (lower.toNat - 1 - upper)).filter source.isSkippable

theorem length_skippableBetween {source : Source} {upper : Nat} {lower : Int}
    (h : ∀ n : Nat, upper < n → (n : Int) < lower → source.isSkippable n = true) :
    (source.skippableBetween upper lower).length = lower.toNat - 1 - upper := by
  have hall : ∀ n ∈ List.range' (upper + 1) (lower.toNat - 1 - upper),
      source.isSkippable n = true := by
    intro n hn
    rw [List.mem_range'_1] at hn
    exact h n (by omega) (by omega)
  rw [Source.skippableBetween, List.filter_eq_self.2 hall, List.length_range']

/-- The block that documents a line ends above it, and only lines that are skipped lie between. -/
theorem exists_span_of_javadocBefore? {path : String} {text : List Char} {line : Int}
    {comment : DocComment} (h : (Source.ofText path text).javadocBefore? line = some comment) :
    ∃ span ∈ javadocSpans (Text.unifyLineEnds text),
      comment = blockAt (Text.unifyLineEnds text) span ∧
      (lastLineOf (Text.unifyLineEnds text) span : Int) < line ∧
      ∀ n : Nat, lastLineOf (Text.unifyLineEnds text) span < n → (n : Int) < line →
        (Source.ofText path text).isSkippable n = true := by
  obtain ⟨span, hspan, hblock, hend, _⟩ := exists_span_of_javadocEndingOn? h
  have hbounds := mem_javadocSpans_bounds hspan
  have hpos := positionIn_line_pos
    (show span.stop - 1 ≤ (Text.unifyLineEnds text).length by omega)
  have habove := lineAbove_le (Source.ofText path text) (line - 1).toNat
  refine ⟨span, hspan, hblock, ?_, fun n hlt hn => ?_⟩
  · rw [lastLineOf]
    omega
  · rw [lastLineOf, hend] at hlt
    exact isSkippable_of_lineAbove_lt hlt (by omega)

end JavadocTags.Java
