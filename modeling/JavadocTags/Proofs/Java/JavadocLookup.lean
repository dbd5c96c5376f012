import Mathlib
import JavadocTags.Proofs.Java.Masking
import JavadocTags.Proofs.Java.DeclarationPlaces

/-!
# The block that documents a declaration

The block that documents a declaration is looked up by lines: it is the last one that ends on the
nearest line above the declaration that is not skipped. Lines are skipped by how they begin in the
text, not in the masked text. So there can be code behind the block on the line that it ends on and
in front of the declaration on its own line, but none between, unless a line between begins inside a
comment or literal and still looks like a line comment.
-/
namespace JavadocTags.Java

open Text (LineIndex Position)

def positionIn (text : List Char) (offset : Nat) : Position :=
  (LineIndex.ofText text).position offset

theorem positionIn_eq {text : List Char} {offset : Nat} (h : offset ≤ text.length) :
    positionIn text offset = Position.origin.after (text.take offset) :=
  LineIndex.position_eq h

@[simp] theorem positionIn_append (before after : List Char) :
    positionIn (before ++ after) before.length = Position.origin.after before :=
  LineIndex.position_append before after

/-- An offset lies on the line after as many line feeds as there are before it. -/
theorem positionIn_line_eq {text : List Char} {offset : Nat} (h : offset ≤ text.length) :
    (positionIn text offset).line = 1 + (text.take offset).count '\n' := by
  rw [positionIn_eq h, Position.after_line]
  rfl

theorem positionIn_line_pos {text : List Char} {offset : Nat} (h : offset ≤ text.length) :
    0 < (positionIn text offset).line := by
  rw [positionIn_line_eq h]
  exact Nat.lt_of_lt_of_le Nat.zero_lt_one (Nat.le_add_right _ _)

theorem positionIn_line_le {text : List Char} {offset later : Nat} (hle : offset ≤ later)
    (hlater : later ≤ text.length) :
    (positionIn text offset).line ≤ (positionIn text later).line := by
  rw [positionIn_line_eq (Nat.le_trans hle hlater), positionIn_line_eq hlater]
  have htake : text.take offset <+: text.take later := List.take_prefix_take_left hle
  exact Nat.add_le_add_left (htake.sublist.count_le _) _

theorem positionIn_line_of_split {text start line after : List Char} {offset : Nat}
    (htext : text = start ++ line ++ after) (hline : '\n' ∉ line) (hle : start.length ≤ offset)
    (hge : offset ≤ start.length + line.length) :
    (positionIn text offset).line = start.count '\n' + 1 := by
  have htake : text.take offset = start ++ line.take (offset - start.length) := by
    rw [htext, List.take_append_of_le_length (by simpa using hge), List.take_append,
      List.take_of_length_le hle]
  have hoffset : offset ≤ text.length := by
    rw [htext, List.length_append, List.length_append]
    omega
  rw [positionIn_line_eq hoffset, htake, List.count_append,
    List.count_eq_zero.2 fun hmem => hline (List.mem_of_mem_take hmem), Nat.add_comm, Nat.add_zero]

theorem exists_start_of_mem_declarations {text : List Char} {d : Declaration}
    (h : d ∈ declarations text) :
    ∃ start < text.length, (positionIn text start).line = d.line ∧
      (positionIn text start).column = d.column := by
  obtain ⟨before, first, after, hmask, _, hline, hcolumn⟩ := exists_offset_of_mem_declarations h
  have hbefore : before.length < text.length := by
    rw [← length_mask text, hmask, List.length_append, List.length_cons]
    omega
  have hstart : positionIn text before.length = Position.origin.after before := by
    rw [positionIn_eq (Nat.le_of_lt hbefore), ← after_take_mask, hmask, List.take_left]
  rw [← hstart] at hline hcolumn
  exact ⟨before.length, hbefore, hline.symm, hcolumn.symm⟩

section Blocks

@[simp] theorem commentBetween_startLine (lines : List (List Char)) (first last : Position) :
    (commentBetween lines first last).startLine = first.line := by
  simp only [commentBetween]
  split
  · rfl
  · rfl

theorem length_commentBetween (lines : List (List Char)) (first last : Position) :
    (commentBetween lines first last).lines.length =
      ((lines.take last.line).drop (first.line - 1)).length := by
  simp only [commentBetween]
  generalize (lines.take last.line).drop (first.line - 1) = block
  have hreverse : block.reverse.length = block.length := List.length_reverse
  rw [← hreverse]
  cases block.reverse with
  | nil => rfl
  | cons final before =>
      have hcut : (final.take (last.column + 1) :: before).reverse.length =
          (final :: before).length := List.length_reverse
      simp only
      split
      · rename_i hnil
        rw [← hcut, hnil]
      · rename_i hcons
        rw [← hcut, hcons]
        rfl

theorem endLine_commentBetween {lines : List (List Char)} {first last : Position}
    (hfirst : 0 < first.line) (hle : first.line ≤ last.line) (hlast : last.line ≤ lines.length) :
    (commentBetween lines first last).endLine = last.line := by
  rw [DocComment.endLine, commentBetween_startLine, length_commentBetween, List.length_drop,
    List.length_take]
  omega

theorem exists_of_mem_lastOnEachLine {comment : DocComment} {comments : List DocComment}
    (h : comment ∈ lastOnEachLine comments) :
    ∃ before after, comments = before ++ comment :: after ∧
      ∀ later ∈ after, later.endLine ≠ comment.endLine := by
  induction comments with
  | nil => cases h
  | cons first rest ih =>
      have hrest (h : comment ∈ lastOnEachLine rest) : ∃ before after,
          first :: rest = before ++ comment :: after ∧
            ∀ later ∈ after, later.endLine ≠ comment.endLine := by
        obtain ⟨before, after, rfl, hafter⟩ := ih h
        exact ⟨first :: before, after, rfl, hafter⟩
      rw [lastOnEachLine] at h
      split at h
      · exact hrest h
      · rename_i hlast
        rcases List.mem_cons.1 h with rfl | h
        · exact ⟨[], rest, rfl, by simpa using hlast⟩
        · exact hrest h

theorem mem_javadocSpans_bounds {text : List Char} {span : Span} (h : span ∈ javadocSpans text) :
    span.start < span.stop ∧ span.stop ≤ text.length := by
  obtain ⟨before, s, after, hsegments, hjavadoc, hstart, hstop⟩ := (mem_javadocSpansFrom ..).1 h
  have hbound := segment_bound hsegments
  have hpos := ((isJavadoc_iff s).1 hjavadoc).2.1.length_le
  simp only [List.length_cons, List.length_nil] at hpos
  omega

/-- What stands on a line below a block stands behind the block. -/
theorem stop_le_of_line_lt {text : List Char} {span : Span} {start : Nat}
    (h : span ∈ javadocSpans text)
    (hline : (positionIn text (span.stop - 1)).line < (positionIn text start).line) :
    span.stop ≤ start := by
  obtain ⟨hwidth, hbound⟩ := mem_javadocSpans_bounds h
  refine Nat.le_of_not_lt fun hlt => ?_
  have hle := positionIn_line_le (show start ≤ span.stop - 1 by omega)
    (show span.stop - 1 ≤ text.length by omega)
  omega

def blockAt (text : List Char) (span : Span) : DocComment :=
  commentBetween (Text.lines text) (positionIn text span.start) (positionIn text (span.stop - 1))

theorem endLine_blockAt {text : List Char} {span : Span} (h : span ∈ javadocSpans text) :
    (blockAt text span).endLine = (positionIn text (span.stop - 1)).line := by
  obtain ⟨hlt, hle⟩ := mem_javadocSpans_bounds h
  refine endLine_commentBetween (positionIn_line_pos (by omega))
    (positionIn_line_le (by omega) (by omega)) ?_
  have hcount : (text.take (span.stop - 1)).count '\n' ≤ text.count '\n' :=
    (List.take_sublist _ _).count_le _
  rw [positionIn_line_eq (by omega), Text.length_lines, Nat.add_comm]
  exact Nat.add_le_add_right hcount 1

end Blocks

/-- A block that is looked up is that of a span, and of the spans that end on its line it is the
last. -/
theorem exists_span_of_javadocEndingOn? {path : String} {text : List Char} {number : Nat}
    {comment : DocComment}
    (h : (Source.ofText path text).javadocEndingOn? number = some comment) :
    ∃ span ∈ javadocSpans (Text.unifyLineEnds text),
      comment = blockAt (Text.unifyLineEnds text) span ∧
      (positionIn (Text.unifyLineEnds text) (span.stop - 1)).line = number ∧
      ∀ other ∈ javadocSpans (Text.unifyLineEnds text),
        (positionIn (Text.unifyLineEnds text) (other.stop - 1)).line = number →
          other.stop ≤ span.stop := by
  simp only [Source.javadocEndingOn?, Source.ofText] at h
  generalize Text.unifyLineEnds text = unified at h ⊢
  have hend := List.find?_some h
  obtain ⟨before, after, hsplit, hafter⟩ :=
    exists_of_mem_lastOnEachLine (List.mem_of_find?_eq_some h)
  obtain ⟨spansBefore, spansAfter, hspans, _, hspansAfter⟩ := List.map_eq_append_iff.1 hsplit
  obtain ⟨span, later, rfl, hcomment, hlater⟩ := List.map_eq_cons_iff.1 hspansAfter
  have hpairwise := javadocSpansFrom_pairwise 0 (segments unified)
  rw [← javadocSpans, hspans, List.pairwise_append] at hpairwise
  have hspan : span ∈ javadocSpans unified := by
    rw [hspans]
    exact List.mem_append_right _ List.mem_cons_self
  have hnumber : (positionIn unified (span.stop - 1)).line = number := by
    have hline := endLine_blockAt hspan
    rw [show blockAt unified span = comment from hcomment] at hline
    rw [hline, beq_iff_eq] at hend
    exact_mod_cast hend
  refine ⟨span, hspan, hcomment.symm, hnumber, ?_⟩
  intro other hother hothers
  have hotherEnd := endLine_blockAt hother
  rw [hspans, List.mem_append] at hother
  -- The blocks in front of this one end before it, and those behind it end on other lines.
  rcases hother with hother | hother
  · have hbefore := hpairwise.2.2 other hother span List.mem_cons_self
    have hbounds := (mem_javadocSpans_bounds hspan).1
    omega
  · rcases List.mem_cons.1 hother with rfl | hother
    · exact Nat.le_refl _
    · refine absurd ?_ (hafter (blockAt unified other) ?_)
      · rw [hotherEnd, hothers, ← hnumber, ← endLine_blockAt hspan]
        exact congrArg DocComment.endLine hcomment
      · rw [← hlater]
        exact List.mem_map_of_mem hother

theorem lineAbove_le (source : Source) (number : Nat) : source.lineAbove number ≤ number := by
  fun_induction Source.lineAbove source number with
  | case1 => exact Nat.le_refl _
  | case2 => exact Nat.le_refl _
  | case3 n _ ih => exact Nat.le_succ_of_le ih
  | case4 => exact Nat.le_refl _

theorem isSkippable_of_lineAbove_lt {source : Source} {number line : Nat}
    (hlt : source.lineAbove number < line) (hle : line ≤ number) :
    source.isSkippable line = true := by
  fun_induction Source.lineAbove source number with
  | case1 => omega
  | case2 => omega
  | case3 n hskip ih =>
      by_cases hline : line = n + 2
      · rwa [hline]
      · exact ih hlt (by omega)
  | case4 => omega

/-- A line begins inside a comment or literal that a line above it opens. -/
def BeginsInside (text : List Char) (number : Nat) : Prop :=
  ∃ before s after offset, segments text = before ++ s :: after ∧ s.kind ≠ .code ∧
    positionIn text offset = ⟨number, 0⟩ ∧ (before.flatMap Segment.text).length < offset ∧
    offset < (before.flatMap Segment.text).length + s.text.length

section Slashes
variable {start blanks line after text : List Char}

/-- Two slashes in front of which a line is blank begin a line comment, unless the line begins
inside a comment or literal. -/
theorem segment_at_slashes (hblanks : ∀ c ∈ blanks, Text.isBlank c = true) (hline : '\n' ∉ line)
    (hafter : after = [] ∨ ∃ rest, after = '\n' :: rest)
    (htext : text = start ++ (blanks ++ '/' :: '/' :: line) ++ after) :
    (∃ before later, segments text = before ++ ⟨.lineComment, '/' :: '/' :: line⟩ :: later ∧
        (before.flatMap Segment.text).length = start.length + blanks.length) ∨
      ∃ before s later, segments text = before ++ s :: later ∧ s.kind ≠ .code ∧
        (before.flatMap Segment.text).length < start.length ∧
        start.length < (before.flatMap Segment.text).length + s.text.length := by
  have hlength := congrArg List.length htext
  simp only [List.length_append, List.length_cons] at hlength
  obtain ⟨before, s, later, hsegments, hle, hlt⟩ :=
    exists_segment (show start.length + blanks.length < text.length by omega)
  rcases Nat.lt_or_eq_of_le hle with hbefore | hbefore
  · have hkind : s.kind ≠ .code := by
      intro hcode
      have hmem : s ∈ segments text := by
        rw [hsegments]
        exact List.mem_append_right _ List.mem_cons_self
      have hone := (segmentation_segments text).code_length hmem hcode
      omega
    refine .inr ⟨before, s, later, hsegments, hkind, ?_, by omega⟩
    -- Otherwise the segment would begin with one of the blanks.
    refine Nat.lt_of_not_le fun hstart => ?_
    obtain ⟨c, hc, hnonblank⟩ := isBlank_at_segment hsegments hkind
    rw [htext, List.append_assoc, List.getElem?_append_right hstart, List.append_assoc,
      List.getElem?_append_left (by omega)] at hc
    rw [hblanks c (List.mem_of_getElem? hc)] at hnonblank
    cases hnonblank
  · have hdrop : text.drop (before.flatMap Segment.text).length =
        '/' :: '/' :: (line ++ after) := by
      have hsplit : text = (start ++ blanks) ++ '/' :: '/' :: (line ++ after) := by
        rw [htext]
        simp
      rw [hbefore, hsplit, ← List.length_append, List.drop_left]
    have hs := eq_lineComment hsegments hdrop hline hafter
    rw [hs] at hsegments
    exact .inl ⟨before, later, hsegments, hbefore⟩

/-- Behind two slashes in front of which a line is blank all is blank, unless the line begins inside
a comment or literal. -/
theorem blank_behind_slashes (hblanks : ∀ c ∈ blanks, Text.isBlank c = true) (hline : '\n' ∉ line)
    (hafter : after = [] ∨ ∃ rest, after = '\n' :: rest)
    (htext : text = start ++ (blanks ++ '/' :: '/' :: line) ++ after) :
    (∀ offset m, start.length + blanks.length ≤ offset →
        offset < start.length + (blanks ++ '/' :: '/' :: line).length →
        (mask text)[offset]? = some m → Text.isBlank m = true) ∨
      ∃ before s later, segments text = before ++ s :: later ∧ s.kind ≠ .code ∧
        (before.flatMap Segment.text).length < start.length ∧
        start.length < (before.flatMap Segment.text).length + s.text.length := by
  rcases segment_at_slashes hblanks hline hafter htext with ⟨before, later, hsegments, hbefore⟩ |
    hinside
  · refine .inl fun offset m hoffset hend hm => ?_
    refine isBlank_of_kind_ne_code hsegments (by simp) (by omega) ?_ hm
    rw [hbefore]
    simp only [List.length_append, List.length_cons] at hend ⊢
    omega
  · exact .inr hinside

end Slashes

/-- The blanks that a line begins with and the line feed behind it are blank in the masked text. -/
theorem blank_around_line {start blanks rest after : List Char} {offset : Nat} {m : Char}
    (hblanks : ∀ c ∈ blanks, Text.isBlank c = true)
    (hafter : after = [] ∨ ∃ later, after = '\n' :: later)
    (hm : (mask (start ++ (blanks ++ rest) ++ after))[offset]? = some m)
    (hle : start.length ≤ offset)
    (hplace : offset < start.length + blanks.length ∨
      offset = start.length + (blanks ++ rest).length) :
    Text.isBlank m = true := by
  obtain ⟨c, hc, hmasks⟩ := masks_of_getElem? hm
  refine hmasks.isBlank ?_
  rcases hplace with hfront | hend
  · rw [List.append_assoc, List.getElem?_append_right hle, List.append_assoc,
      List.getElem?_append_left (by omega)] at hc
    exact hblanks c (List.mem_of_getElem? hc)
  · rw [hend, ← List.length_append, List.getElem?_append_right (Nat.le_refl _),
      Nat.sub_self] at hc
    rcases hafter with rfl | ⟨later, rfl⟩
    · cases hc
    · rw [← Option.some.inj hc]
      rfl

/-- On a line that is skipped all is blank, unless the line begins inside a comment or literal. -/
theorem blank_of_isSkippable {source : Source} {text : List Char} {offset : Nat} {m : Char}
    (hlines : source.lines = (Text.lines text).toArray)
    (hskip : source.isSkippable (positionIn text offset).line = true)
    (hm : (mask text)[offset]? = some m) :
    Text.isBlank m = true ∨ (BeginsInside text (positionIn text offset).line ∧
      ['/', '/'] <+: Text.trimStart (source.line (positionIn text offset).line)) := by
  obtain ⟨c, hc, _⟩ := masks_of_getElem? hm
  have hoffset := (List.getElem?_eq_some_iff.1 hc).1
  obtain ⟨start, line, after, htext, hline, hget, hstart, hle, hge, hafter⟩ :=
    Text.exists_line (Nat.le_of_lt hoffset)
  have hnumber := positionIn_line_of_split htext hline hle hge
  have hsourceLine : source.line (positionIn text offset).line = line := by
    rw [hnumber, Source.line, hlines]
    simp [hget]
  have hblanks : ∀ c ∈ line.takeWhile Text.isBlank, Text.isBlank c = true :=
    List.all_eq_true.1 List.all_takeWhile
  have hsplit := List.takeWhile_append_dropWhile (p := Text.isBlank) (l := line)
  simp only [Source.isSkippable, hsourceLine, Text.trimStart] at hskip ⊢
  by_cases hplace : offset < start.length + (line.takeWhile Text.isBlank).length ∨
      offset = start.length + line.length
  · rw [htext, ← hsplit] at hm
    rw [← hsplit] at hplace
    exact .inl (blank_around_line hblanks hafter hm hle (by simpa using hplace))
  rw [not_or] at hplace
  -- The line has characters behind its blanks, so it is skipped for its two slashes.
  have hslashes : ['/', '/'] <+: line.dropWhile Text.isBlank := by
    rcases Bool.or_eq_true_iff.1 hskip with hempty | hslashes
    · have hlength := congrArg List.length hsplit
      rw [List.isEmpty_iff.1 hempty, List.append_nil] at hlength
      omega
    · exact List.isPrefixOf_iff_prefix.1 hslashes
  obtain ⟨rest, hrest⟩ := hslashes
  generalize line.takeWhile Text.isBlank = blanks at *
  rw [← hrest] at hsplit ⊢
  have hrestLine : '\n' ∉ rest := by
    intro hmem
    rw [← hsplit] at hline
    exact hline (List.mem_append_right _ (List.mem_append_right _ hmem))
  have hwhole : text = start ++ (blanks ++ '/' :: '/' :: rest) ++ after := by
    rw [htext, ← hsplit]
    rfl
  rcases blank_behind_slashes hblanks hrestLine hafter hwhole with
    hblank | ⟨before, s, later, hsegments, hkind, hbefore, hlater⟩
  · refine .inl (hblank offset m (by omega) ?_ hm)
    have hlength := congrArg List.length hsplit
    simp only [List.length_append, List.length_cons, List.length_nil] at hlength ⊢
    omega
  · refine .inr ⟨⟨before, s, later, start.length, hsegments, hkind, ?_, hbefore, hlater⟩,
      List.prefix_append _ _⟩
    have hposition := positionIn_append start (line ++ after)
    rw [← List.append_assoc, ← htext] at hposition
    rw [hposition, Position.origin, hstart, hnumber, Nat.add_comm]

/-- The block that documents a declaration is the last one that ends on its line, and it ends above
the declaration. Between the two all is blank but for the rest of the block's last line, what
stands before the declaration on its own line, and lines that look like line comments but begin
inside a comment or literal. -/
theorem blank_between_block_and_declaration (path : String) (text : List Char) {d : Declaration}
    {comment : DocComment} (hd : d ∈ (Source.ofText path text).declarations)
    (hcomment : (Source.ofText path text).javadocBefore? d.line = some comment) :
    ∃ span ∈ javadocSpans (Text.unifyLineEnds text), ∃ start,
      comment = blockAt (Text.unifyLineEnds text) span ∧
      (∀ other ∈ javadocSpans (Text.unifyLineEnds text),
        (positionIn (Text.unifyLineEnds text) (other.stop - 1)).line =
          (positionIn (Text.unifyLineEnds text) (span.stop - 1)).line →
        other.stop ≤ span.stop) ∧
      (positionIn (Text.unifyLineEnds text) start).line = d.line ∧
      (positionIn (Text.unifyLineEnds text) start).column = d.column ∧
      (positionIn (Text.unifyLineEnds text) (span.stop - 1)).line < d.line ∧
      span.stop ≤ start ∧ start < (Text.unifyLineEnds text).length ∧
      ∀ offset c, span.stop ≤ offset → offset < start →
        (mask (Text.unifyLineEnds text))[offset]? = some c →
          Text.isBlank c = true ∨
          (positionIn (Text.unifyLineEnds text) offset).line =
            (positionIn (Text.unifyLineEnds text) (span.stop - 1)).line ∨
          (positionIn (Text.unifyLineEnds text) offset).line = d.line ∨
          (BeginsInside (Text.unifyLineEnds text)
              (positionIn (Text.unifyLineEnds text) offset).line ∧
            ['/', '/'] <+: Text.trimStart ((Source.ofText path text).line
              (positionIn (Text.unifyLineEnds text) offset).line)) := by
  have hlines : (Source.ofText path text).lines =
      (Text.lines (Text.unifyLineEnds text)).toArray := rfl
  obtain ⟨span, hspan, hblock, hend, hlast⟩ := exists_span_of_javadocEndingOn? hcomment
  have habove := lineAbove_le (Source.ofText path text) (d.line - 1).toNat
  have hpassed := @isSkippable_of_lineAbove_lt (Source.ofText path text) (d.line - 1).toNat
  rw [← hend] at hlast habove hpassed
  obtain ⟨start, hlength, hline, hcolumn⟩ :=
    exists_start_of_mem_declarations (show d ∈ declarations (Text.unifyLineEnds text) from hd)
  generalize Text.unifyLineEnds text = unified at *
  have hpos := positionIn_line_pos (Nat.le_of_lt hlength)
  have hbelow : (positionIn unified (span.stop - 1)).line < (positionIn unified start).line := by
    omega
  have hstop := stop_le_of_line_lt hspan hbelow
  have hwidth := (mem_javadocSpans_bounds hspan).1
  refine ⟨span, hspan, start, hblock, hlast, hline, hcolumn, by omega, hstop, hlength, ?_⟩
  intro offset c hle hlt hc
  have hfrom := positionIn_line_le (show span.stop - 1 ≤ offset by omega)
    (show offset ≤ unified.length by omega)
  have hto := positionIn_line_le (Nat.le_of_lt hlt) (Nat.le_of_lt hlength)
  by_cases hblockLine :
      (positionIn unified offset).line = (positionIn unified (span.stop - 1)).line
  · exact .inr (.inl hblockLine)
  by_cases hownLine : ((positionIn unified offset).line : Int) = d.line
  · exact .inr (.inr (.inl hownLine))
  -- The other lines in between have been passed on the way up from the declaration.
  have hskip : (Source.ofText path text).isSkippable (positionIn unified offset).line = true :=
    hpassed (by omega) (by omega)
  rcases blank_of_isSkippable hlines hskip hc with hblank | hinside
  · exact .inl hblank
  · exact .inr (.inr (.inr hinside))

def sampleBlock : List Char :=
  "/** a */\n\n// b\nclass A \x7b\x7d".toList

theorem mem_declarations_sampleBlock :
    (⟨.classType, "A", 4, 0⟩ : Declaration) ∈ (Source.ofText "" sampleBlock).declarations := by
  decide_cbv

theorem javadocBefore?_sampleBlock :
    (Source.ofText "" sampleBlock).javadocBefore? 4 = some ⟨["/** a */".toList], 1⟩ := by
  decide_cbv

theorem blank_between_block_and_declaration_sampleBlock :
    (⟨.classType, "A", 4, 0⟩ : Declaration) ∈ (Source.ofText "" sampleBlock).declarations ∧
      (Source.ofText "" sampleBlock).javadocBefore? 4 = some ⟨["/** a */".toList], 1⟩ ∧
      ∃ span ∈ javadocSpans (Text.unifyLineEnds sampleBlock), ∃ start,
        (positionIn (Text.unifyLineEnds sampleBlock) start).line = (4 : Int) ∧
          span.stop ≤ start := by
  obtain ⟨span, hspan, start, _, _, hline, _, _, hstop, _⟩ :=
    blank_between_block_and_declaration "" sampleBlock mem_declarations_sampleBlock
      javadocBefore?_sampleBlock
  exact ⟨mem_declarations_sampleBlock, javadocBefore?_sampleBlock, span, hspan, start, hline, hstop⟩

/-- Whatever stands between a block and the first token of the declaration that it documents is
blank. -/
def BlankBehindBlocks (text : List Char) : Prop :=
  ∀ d ∈ (Source.ofText "" text).declarations, ∀ comment,
    (Source.ofText "" text).javadocBefore? d.line = some comment →
      ∃ span ∈ javadocSpans (Text.unifyLineEnds text),
        comment = blockAt (Text.unifyLineEnds text) span ∧
        ∀ start < (Text.unifyLineEnds text).length,
          positionIn (Text.unifyLineEnds text) start = ⟨d.line.toNat, d.column.toNat⟩ →
          ∀ offset c, span.stop ≤ offset → offset < start →
            (mask (Text.unifyLineEnds text))[offset]? = some c → Text.isBlank c = true

theorem not_blankBehindBlocks_of {text : List Char} (d : Declaration) {comment : DocComment}
    {span : Span} (start offset : Nat) {c : Char}
    (hd : d ∈ (Source.ofText "" text).declarations)
    (hcomment : (Source.ofText "" text).javadocBefore? d.line = some comment)
    (hspans : javadocSpans (Text.unifyLineEnds text) = [span])
    (hlength : start < (Text.unifyLineEnds text).length)
    (hstart : positionIn (Text.unifyLineEnds text) start = ⟨d.line.toNat, d.column.toNat⟩)
    (hle : span.stop ≤ offset) (hlt : offset < start)
    (hc : (mask (Text.unifyLineEnds text))[offset]? = some c) (hblank : Text.isBlank c = false) :
    ¬ BlankBehindBlocks text := by
  intro h
  obtain ⟨other, hother, _, hbehind⟩ := h d hd comment hcomment
  rw [hspans, List.mem_singleton] at hother
  rw [hother] at hbehind
  have hcontra := hbehind start hlength hstart offset c hle hlt hc
  rw [hblank] at hcontra
  cases hcontra

/-- Code on the line that a block ends on, code before the declaration on its own line, and code
behind a comment that begins further up are all passed over. -/
theorem not_blankBehindBlocks :
    ¬ BlankBehindBlocks "/** a */ int x;\nclass A \x7b\x7d".toList ∧
      ¬ BlankBehindBlocks "/** a */\nint x; class A \x7b\x7d".toList ∧
      ¬ BlankBehindBlocks "/** a */ /*\n// */ int x;\nclass A \x7b\x7d".toList := by
  refine ⟨?_, ?_, ?_⟩
  · exact not_blankBehindBlocks_of ⟨.classType, "A", 2, 0⟩ 16 9 (by decide_cbv) (by cbv) (by cbv)
      (by decide_cbv) (by cbv) (by decide) (by decide) (by cbv) (by decide)
  · exact not_blankBehindBlocks_of ⟨.classType, "A", 2, 7⟩ 16 9 (by decide_cbv) (by cbv) (by cbv)
      (by decide_cbv) (by cbv) (by decide) (by decide) (by cbv) (by decide)
  · exact not_blankBehindBlocks_of ⟨.classType, "A", 3, 0⟩ 25 18 (by decide_cbv) (by cbv) (by cbv)
      (by decide_cbv) (by cbv) (by decide) (by decide) (by cbv) (by decide)

end JavadocTags.Java
