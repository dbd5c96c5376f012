import JavadocTags.Proofs.Java.JavadocLookup

/-!
# The nearest block is found

Above a line the lookup passes blank lines and line comments, and it returns a block that ends on
the line where it stops. So a block above a gap of such lines is found, unless the line that it ends
on looks like a line comment itself. A line of that kind begins inside a comment or literal: the
lookup goes by the beginning of the line alone, not by the segments of the text.
-/
namespace JavadocTags.Java

open Text (Position)

/-- A line that holds nothing but blanks. Behind the end of the text all lines are blank. -/
def BlankLine (text : List Char) (number : Nat) : Prop :=
  ∀ line, (Text.lines text)[number - 1]? = some line → ∀ c ∈ line, Text.isBlank c = true

/-- A line comment begins at the first character of the line that is no blank. -/
def CommentLine (text : List Char) (number : Nat) : Prop :=
  ∃ before s after line, segments text = before ++ s :: after ∧ s.kind = .lineComment ∧
    (Text.lines text)[number - 1]? = some line ∧
    positionIn text (before.flatMap Segment.text).length =
      ⟨number, (line.takeWhile Text.isBlank).length⟩

/-- The line that a block ends on. -/
def lastLineOf (text : List Char) (span : Span) : Nat :=
  (positionIn text (span.stop - 1)).line

/-- Only blank lines and line comments stand between two lines. -/
def GapBetween (text : List Char) (upper : Nat) (lower : Int) : Prop :=
  ∀ n : Nat, upper < n → (n : Int) < lower → BlankLine text n ∨ CommentLine text n

/-- A line whose first characters behind its blanks are two slashes, whatever they belong to. -/
def SlashedLine (text : List Char) (number : Nat) : Prop :=
  ∃ line, (Text.lines text)[number - 1]? = some line ∧ ['/', '/'] <+: Text.trimStart line

/-- The block that the lookup finds above a line ends on another given line. -/
def FoundOn (path : String) (text : List Char) (upper : Nat) (lower : Int) : Prop :=
  ∃ span ∈ javadocSpans (Text.unifyLineEnds text),
    (Source.ofText path text).javadocBefore? lower = some (blockAt (Text.unifyLineEnds text) span) ∧
    lastLineOf (Text.unifyLineEnds text) span = upper

section Lines
variable {text : List Char}

theorem exists_line_of_offset {offset : Nat} (h : offset ≤ text.length) :
    ∃ start line after, text = start ++ line ++ after ∧ '\n' ∉ line ∧
      (Text.lines text)[(positionIn text offset).line - 1]? = some line ∧
      positionIn text start.length = ⟨(positionIn text offset).line, 0⟩ ∧
      offset = start.length + (positionIn text offset).column ∧
      (positionIn text offset).column ≤ line.length ∧
      (after = [] ∨ ∃ rest, after = '\n' :: rest) := by
  obtain ⟨start, line, after, htext, hline, hget, hstart, hle, hge, hafter⟩ := Text.exists_line h
  have horigin : Position.origin.after start = ⟨start.count '\n' + 1, 0⟩ := by
    rw [Position.origin, hstart, Nat.add_comm]
  have htake : text.take offset = start ++ line.take (offset - start.length) := by
    rw [htext, List.take_append_of_le_length (by simpa using hge), List.take_append,
      List.take_of_length_le hle]
  have hposition : positionIn text offset = ⟨start.count '\n' + 1, offset - start.length⟩ := by
    have hkept : '\n' ∉ line.take (offset - start.length) :=
      fun hmem => hline (List.mem_of_mem_take hmem)
    rw [positionIn_eq h, htake, Position.after_append, horigin, Position.after_of_not_mem _ hkept,
      List.length_take]
    simp only [Position.mk.injEq, true_and]
    omega
  have hfirst : positionIn text start.length = ⟨start.count '\n' + 1, 0⟩ := by
    rw [htext, List.append_assoc, positionIn_append, horigin]
  refine ⟨start, line, after, htext, hline, ?_, ?_, ?_, ?_, hafter⟩
  · rw [hposition]
    exact hget
  · rw [hposition]
    exact hfirst
  · rw [hposition]
    simp only
    omega
  · rw [hposition]
    simp only
    omega

theorem Cut.slashes {rest after : List Char} (h : Cut rest .lineComment after) :
    ∃ tail, rest = '/' :: '/' :: tail := by
  cases h with
  | lineComment _ => exact ⟨_, rfl⟩

/-- Slashes at the beginning of a line and what follows it belong to the line. -/
theorem slashes_of_append {line after : List Char}
    (hafter : after = [] ∨ ∃ rest, after = '\n' :: rest) (h : ['/', '/'] <+: line ++ after) :
    ['/', '/'] <+: line := by
  have hhead : ['/'] <+: line ++ after := List.IsPrefix.trans ⟨['/'], rfl⟩ h
  have hfollows : ¬ ['/'] <+: after := by
    rcases hafter with rfl | ⟨rest, rfl⟩
    · simp
    · simp
  match line with
  | [] => exact absurd hhead hfollows
  | [c] =>
      rw [List.singleton_append, List.cons_prefix_cons] at h
      exact absurd h.2 hfollows
  | c :: d :: front =>
      rw [List.cons_append, List.cons_append, List.cons_prefix_cons, List.cons_prefix_cons] at h
      rw [List.cons_prefix_cons, List.cons_prefix_cons]
      exact ⟨h.1, h.2.1, List.nil_prefix⟩

theorem CommentLine.slashedLine {number : Nat} (h : CommentLine text number) :
    SlashedLine text number := by
  obtain ⟨before, s, after, line, hsegments, hkind, hget, hposition⟩ := h
  obtain ⟨c, rest, hdrop, hs⟩ := exists_splitSegment hsegments
  have hcut := cut_splitSegment c rest
  rw [← hs, hkind] at hcut
  obtain ⟨tail, htail⟩ := hcut.slashes
  have hbound := segment_bound hsegments
  obtain ⟨start, found, behind, htext, _, hfound, _, hoffset, _, hbehind⟩ :=
    exists_line_of_offset (show (before.flatMap Segment.text).length ≤ text.length by omega)
  rw [hposition] at hfound hoffset
  have hsame : found = line := Option.some.inj (hfound.symm.trans hget)
  refine ⟨line, hget, ?_⟩
  -- The text from the segment on is the line without its blanks, and what follows the line.
  have hrest : Text.trimStart line ++ behind = '/' :: '/' :: tail := by
    have hsplit := List.takeWhile_append_dropWhile (p := Text.isBlank) (l := line)
    have hwhole : text = (start ++ line.takeWhile Text.isBlank) ++
        (Text.trimStart line ++ behind) := by
      rw [htext, hsame, Text.trimStart]
      nth_rewrite 1 [← hsplit]
      simp only [List.append_assoc]
    rw [← htail, ← hdrop, hoffset, ← List.length_append, hwhole, List.drop_left]
  exact slashes_of_append hbehind ⟨tail, hrest.symm⟩

end Lines

section Blocks
variable {text : List Char}

/-- A closed comment ends with a star and a slash. -/
theorem splitBlockEnd_suffix {rest : List Char} (h : (splitBlockEnd rest).2.2 = true) :
    ['*', '/'] <:+ (splitBlockEnd rest).1 := by
  fun_induction splitBlockEnd rest with
  | case1 => cases h
  | case2 rest => exact List.suffix_rfl
  | case3 c rest hno body after closed hrec ih =>
      rw [hrec] at ih
      exact (ih h).trans (List.suffix_cons c body)

theorem splitSegment_suffix {c : Char} {rest : List Char}
    (h : (splitSegment c rest).1.kind = .blockComment true) :
    ['*', '/'] <:+ (splitSegment c rest).1.text := by
  unfold splitSegment at h ⊢
  split at h
  · cases h
  · rename_i rest
    have hclosed : (splitBlockEnd rest).2.2 = true := by
      simpa using h
    have hsuffix := splitBlockEnd_suffix hclosed
    exact (hsuffix.trans (List.suffix_cons '*' _)).trans (List.suffix_cons '/' _)
  · cases h
  · split at h
    · cases h
    · cases h

theorem exists_segment_of_span {span : Span} (h : span ∈ javadocSpans text) :
    ∃ before s after, segments text = before ++ s :: after ∧ s.kind = .blockComment true ∧
      span.start = (before.flatMap Segment.text).length ∧
      span.stop = span.start + s.text.length ∧ text[span.stop - 1]? = some '/' := by
  obtain ⟨before, s, after, hsegments, hjavadoc, hstart, hstop⟩ := (mem_javadocSpansFrom ..).1 h
  rw [Nat.zero_add] at hstart
  have hkind := ((isJavadoc_iff s).1 hjavadoc).1
  refine ⟨before, s, after, hsegments, hkind, hstart, hstop, ?_⟩
  obtain ⟨c, rest, _, hs⟩ := exists_splitSegment hsegments
  rw [hs] at hkind
  obtain ⟨front, hfront⟩ := splitSegment_suffix hkind
  rw [← hs] at hfront
  have htext : text = (before.flatMap Segment.text ++ front ++ ['*']) ++
      '/' :: after.flatMap Segment.text := by
    rw [text_eq_of_segments hsegments, ← hfront]
    simp only [List.append_assoc, List.cons_append, List.nil_append]
  have hlast : span.stop - 1 = (before.flatMap Segment.text ++ front ++ ['*']).length := by
    rw [hstop, hstart, ← hfront]
    simp only [List.length_append, List.length_cons, List.length_nil]
    omega
  rw [hlast, htext, List.getElem?_append_right (Nat.le_refl _), Nat.sub_self]
  rfl

theorem segment_unique {segs before before' after after' : List Segment} {s s' : Segment}
    {offset : Nat} (h : segs = before ++ s :: after) (h' : segs = before' ++ s' :: after')
    (hle : (before.flatMap Segment.text).length ≤ offset)
    (hlt : offset < (before.flatMap Segment.text).length + s.text.length)
    (hle' : (before'.flatMap Segment.text).length ≤ offset)
    (hlt' : offset < (before'.flatMap Segment.text).length + s'.text.length) : s = s' := by
  rw [h] at h'
  rcases List.append_eq_append_iff.1 h' with ⟨between, hbefore, hrest⟩ | ⟨between, hbefore, hrest⟩
  · cases between with
    | nil => exact (List.cons.inj hrest).1
    | cons t between =>
        obtain ⟨rfl, _⟩ := List.cons.inj hrest
        rw [hbefore, List.flatMap_append, List.flatMap_cons, List.length_append,
          List.length_append] at hle'
        omega
  · cases between with
    | nil => exact (List.cons.inj hrest).1.symm
    | cons t between =>
        obtain ⟨rfl, _⟩ := List.cons.inj hrest
        rw [hbefore, List.flatMap_append, List.flatMap_cons, List.length_append,
          List.length_append] at hle
        omega

/-- If the last line of a block looks like a line comment, it begins inside a comment or literal. -/
theorem beginsInside_of_slashedLine {span : Span} (h : span ∈ javadocSpans text)
    (hslashed : SlashedLine text (lastLineOf text span)) :
    BeginsInside text (lastLineOf text span) := by
  rw [lastLineOf] at hslashed ⊢
  obtain ⟨before, s, after, hsegments, hkind, hstart, hstop, hslash⟩ := exists_segment_of_span h
  have hcomment : s.kind ≠ .code := by
    rw [hkind]
    simp
  obtain ⟨hwidth, hbound⟩ := mem_javadocSpans_bounds h
  obtain ⟨start, line, behind, htext, hline, hget, hfirst, hoffset, hcolumn, hbehind⟩ :=
    exists_line_of_offset (show span.stop - 1 ≤ text.length by omega)
  obtain ⟨found, hfound, rest, hrest⟩ := hslashed
  have hsame : found = line := Option.some.inj (hfound.symm.trans hget)
  rw [hsame] at hrest
  by_cases hinside : span.start < start.length
  · exact ⟨before, s, after, start.length, hsegments, hcomment, hfirst, by omega, by omega⟩
  -- The block begins on the line, behind its blanks, so behind the two slashes or with them.
  have hblanks : ∀ c ∈ line.takeWhile Text.isBlank, Text.isBlank c = true :=
    List.all_eq_true.1 List.all_takeWhile
  have hsplit := List.takeWhile_append_dropWhile (p := Text.isBlank) (l := line)
  rw [Text.trimStart] at hrest
  generalize line.takeWhile Text.isBlank = blanks at *
  rw [← hrest] at hsplit
  have hrestLine : '\n' ∉ rest := by
    intro hmem
    rw [← hsplit] at hline
    exact hline (List.mem_append_right _ (List.mem_append_right _ hmem))
  have hwhole : text = start ++ (blanks ++ '/' :: '/' :: rest) ++ behind := by
    rw [htext, ← hsplit]
    rfl
  have hlength := congrArg List.length hsplit
  simp only [List.length_append, List.length_cons, List.length_nil] at hlength
  rcases segment_at_slashes hblanks hrestLine hbehind hwhole with
    ⟨front, later, hsegments', hfront⟩ | ⟨front, t, later, hsegments', hother, hlow, hhigh⟩
  · have hbegin : start.length + blanks.length ≤ span.start := by
      refine Nat.le_of_not_lt fun hlt => ?_
      obtain ⟨c, hc, hnonblank⟩ := isBlank_at_segment hsegments hcomment
      rw [← hstart, hwhole, List.append_assoc, List.getElem?_append_right (by omega),
        List.append_assoc, List.getElem?_append_left (by omega)] at hc
      rw [hblanks c (List.mem_of_getElem? hc)] at hnonblank
      cases hnonblank
    have hend : span.stop - 1 < start.length + line.length := by
      refine Nat.lt_of_le_of_ne (by omega) fun heq => ?_
      rw [heq, htext, ← List.length_append, List.getElem?_append_right (Nat.le_refl _),
        Nat.sub_self] at hslash
      rcases hbehind with rfl | ⟨next, rfl⟩
      · cases hslash
      · cases hslash
    have hone := segment_unique hsegments hsegments' (show _ ≤ span.stop - 1 by omega)
      (by omega) (by omega) (by simp only [List.length_cons]; omega)
    rw [hone] at hkind
    cases hkind
  · exact ⟨front, t, later, start.length, hsegments', hother, hfirst, hlow, hhigh⟩

/-- The first line begins inside nothing. -/
theorem BeginsInside.one_lt {number : Nat} (h : BeginsInside text number) : 1 < number := by
  obtain ⟨before, s, after, offset, hsegments, _, hposition, hlow, hhigh⟩ := h
  have hbound := segment_bound hsegments
  have hoffset : offset ≤ text.length := by omega
  refine Nat.lt_of_not_le fun hle => ?_
  have hline := Position.after_line Position.origin (text.take offset)
  rw [positionIn_eq hoffset] at hposition
  rw [hposition, Position.origin] at hline
  have hnone : '\n' ∉ text.take offset := by
    refine List.count_eq_zero.1 ?_
    simp only at hline
    omega
  rw [Position.after_of_not_mem _ hnone, List.length_take] at hposition
  have hcolumn := congrArg Position.column hposition
  simp only [Position.origin] at hcolumn
  omega

end Blocks

section Lookup

theorem exists_mem_lastOnEachLine {comment : DocComment} {comments : List DocComment}
    (h : comment ∈ comments) :
    ∃ kept ∈ lastOnEachLine comments, kept.endLine = comment.endLine := by
  induction comments generalizing comment with
  | nil => cases h
  | cons first rest ih =>
      rw [lastOnEachLine]
      split
      · rename_i hlater
        rcases List.mem_cons.1 h with rfl | h
        · obtain ⟨later, hmem, hend⟩ := List.any_eq_true.1 hlater
          obtain ⟨kept, hkept, hsame⟩ := ih hmem
          exact ⟨kept, hkept, hsame.trans (beq_iff_eq.1 hend)⟩
        · exact ih h
      · rcases List.mem_cons.1 h with rfl | h
        · exact ⟨comment, List.mem_cons_self, rfl⟩
        · obtain ⟨kept, hkept, hsame⟩ := ih h
          exact ⟨kept, List.mem_cons_of_mem _ hkept, hsame⟩

theorem exists_javadocEndingOn? (path : String) {text : List Char} {span : Span}
    (h : span ∈ javadocSpans (Text.unifyLineEnds text)) :
    ∃ comment, (Source.ofText path text).javadocEndingOn?
      (lastLineOf (Text.unifyLineEnds text) span) = some comment := by
  have hend := endLine_blockAt h
  have hmem : blockAt (Text.unifyLineEnds text) span ∈ docComments (Text.unifyLineEnds text) :=
    List.mem_map_of_mem h
  obtain ⟨kept, hkept, hsame⟩ := exists_mem_lastOnEachLine hmem
  refine Option.isSome_iff_exists.1 (List.find?_isSome.2 ⟨kept, hkept, ?_⟩)
  rw [beq_iff_eq, hsame, hend, lastLineOf]

variable {source : Source} {text : List Char} {line number : Nat}

theorem lineAbove_succ (h : source.isSkippable (line + 1) = true) (hpos : 0 < line) :
    source.lineAbove (line + 1) = source.lineAbove line := by
  obtain ⟨n, rfl⟩ := Nat.exists_eq_succ_of_ne_zero (Nat.ne_of_gt hpos)
  rw [Source.lineAbove, if_pos h]

/-- Lines that are skipped make no difference. -/
theorem lineAbove_of_gap (hpos : 0 < line) (hle : line ≤ number)
    (hgap : ∀ n, line < n → n ≤ number → source.isSkippable n = true) :
    source.lineAbove number = source.lineAbove line := by
  induction hle with
  | refl => rfl
  | @step number hle ih =>
      have hskip := hgap (number + 1) (Nat.lt_succ_of_le hle) (Nat.le_refl _)
      rw [lineAbove_succ hskip (Nat.lt_of_lt_of_le hpos hle)]
      exact ih fun n hlt hn => hgap n hlt (Nat.le_succ_of_le hn)

theorem lineAbove_self (hpos : 0 < line) (h : source.isSkippable line = false) :
    source.lineAbove line = line := by
  match line with
  | 1 => rfl
  | n + 2 => rw [Source.lineAbove, h]; rfl

theorem lineAbove_lt (hline : 1 < line) (h : source.isSkippable line = true) :
    source.lineAbove line < line := by
  match line with
  | n + 2 =>
      rw [lineAbove_succ h (Nat.succ_pos n)]
      exact Nat.lt_succ_of_le (lineAbove_le source (n + 1))

variable (hlines : source.lines = (Text.lines text).toArray)
include hlines

theorem line_eq_of_getElem? {found : List Char} (hpos : 0 < number)
    (h : (Text.lines text)[number - 1]? = some found) : source.line number = found := by
  rw [Source.line, if_neg (Nat.ne_of_gt hpos), hlines]
  simp [h]

theorem isSkippable_of_blankLine (hpos : 0 < number) (h : BlankLine text number) :
    source.isSkippable number = true := by
  have htrim : Text.trimStart (source.line number) = [] := by
    cases hget : (Text.lines text)[number - 1]? with
    | none =>
        rw [Source.line, if_neg (Nat.ne_of_gt hpos), hlines]
        simp [hget, Text.trimStart]
    | some found =>
        rw [line_eq_of_getElem? hlines hpos hget, Text.trimStart, List.dropWhile_eq_nil_iff]
        exact h found hget
  simp only [Source.isSkippable, htrim]
  rfl

theorem isSkippable_of_slashedLine (hpos : 0 < number) (h : SlashedLine text number) :
    source.isSkippable number = true := by
  obtain ⟨found, hget, hslashes⟩ := h
  simp only [Source.isSkippable, line_eq_of_getElem? hlines hpos hget, Bool.or_eq_true,
    List.isPrefixOf_iff_prefix]
  exact .inr hslashes

/-- The last line of a block is not blank, so it is skipped only for its slashes. -/
theorem slashedLine_of_isSkippable {span : Span} (hspan : span ∈ javadocSpans text)
    (h : source.isSkippable (lastLineOf text span) = true) :
    SlashedLine text (lastLineOf text span) := by
  rw [lastLineOf] at h ⊢
  obtain ⟨_, _, _, _, _, _, _, hslash⟩ := exists_segment_of_span hspan
  have hbounds := mem_javadocSpans_bounds hspan
  obtain ⟨start, found, behind, htext, _, hget, _, hoffset, hcolumn, hbehind⟩ :=
    exists_line_of_offset (show span.stop - 1 ≤ text.length by omega)
  have hpos := positionIn_line_pos (show span.stop - 1 ≤ text.length by omega)
  refine ⟨found, hget, ?_⟩
  simp only [Source.isSkippable, line_eq_of_getElem? hlines hpos hget, Bool.or_eq_true,
    List.isPrefixOf_iff_prefix] at h
  rcases h with hempty | hslashes
  · have hmem : '/' ∈ found := by
      rw [htext, List.append_assoc, List.getElem?_append_right (by omega)] at hslash
      by_cases hend : span.stop - 1 - start.length < found.length
      · rw [List.getElem?_append_left hend] at hslash
        exact List.mem_of_getElem? hslash
      · rw [List.getElem?_append_right (by omega)] at hslash
        rcases hbehind with rfl | ⟨rest, rfl⟩
        · cases hslash
        · rw [show span.stop - 1 - start.length - found.length = 0 by omega] at hslash
          cases hslash
    rw [Text.trimStart, List.isEmpty_iff, List.dropWhile_eq_nil_iff] at hempty
    cases hempty '/' hmem
  · exact hslashes

end Lookup

/-- A block above a gap of blank lines and line comments is found, or a later one that ends on the
same line, exactly when the line that it ends on does not look like a line comment. One that does
begins inside a comment or literal. -/
theorem nearest_block_found_iff (path : String) (text : List Char) {span : Span} {number : Int}
    (hspan : span ∈ javadocSpans (Text.unifyLineEnds text))
    (habove : (lastLineOf (Text.unifyLineEnds text) span : Int) < number)
    (hgap : GapBetween (Text.unifyLineEnds text) (lastLineOf (Text.unifyLineEnds text) span)
      number) :
    (FoundOn path text (lastLineOf (Text.unifyLineEnds text) span) number ↔
      ¬ SlashedLine (Text.unifyLineEnds text) (lastLineOf (Text.unifyLineEnds text) span)) ∧
    (SlashedLine (Text.unifyLineEnds text) (lastLineOf (Text.unifyLineEnds text) span) →
      BeginsInside (Text.unifyLineEnds text) (lastLineOf (Text.unifyLineEnds text) span)) := by
  have hlines : (Source.ofText path text).lines =
      (Text.lines (Text.unifyLineEnds text)).toArray := rfl
  have hbounds := mem_javadocSpans_bounds hspan
  have hpos : 0 < lastLineOf (Text.unifyLineEnds text) span := positionIn_line_pos (by omega)
  have hbegins := beginsInside_of_slashedLine hspan
  -- The lookup passes the gap and comes to the line that the block ends on.
  have hlookup : (Source.ofText path text).javadocBefore? number =
      (Source.ofText path text).javadocEndingOn?
        ((Source.ofText path text).lineAbove (lastLineOf (Text.unifyLineEnds text) span)) := by
    rw [Source.javadocBefore?, lineAbove_of_gap hpos (by omega)]
    intro n hlt hle
    rcases hgap n hlt (by omega) with hblank | hcomment
    · exact isSkippable_of_blankLine hlines (by omega) hblank
    · exact isSkippable_of_slashedLine hlines (by omega) hcomment.slashedLine
  refine ⟨⟨?_, ?_⟩, hbegins⟩
  · rintro ⟨found, hfound, hbefore, hsame⟩ hslashed
    have hpassed := lineAbove_lt (hbegins hslashed).one_lt
      (isSkippable_of_slashedLine hlines hpos hslashed)
    have hend := endLine_blockAt hfound
    rw [hlookup] at hbefore
    have hfind := List.find?_some hbefore
    rw [beq_iff_eq, hend] at hfind
    rw [lastLineOf] at hsame
    omega
  · intro hslashed
    have hstop : (Source.ofText path text).isSkippable
        (lastLineOf (Text.unifyLineEnds text) span) = false := by
      rw [← Bool.not_eq_true]
      intro hskip
      exact hslashed (slashedLine_of_isSkippable hlines hspan hskip)
    rw [lineAbove_self hpos hstop] at hlookup
    obtain ⟨comment, hcomment⟩ := exists_javadocEndingOn? path hspan
    obtain ⟨found, hfound, hblock, hline, _⟩ := exists_span_of_javadocEndingOn? hcomment
    rw [hcomment, hblock] at hlookup
    exact ⟨found, hfound, hlookup, hline⟩

theorem gapBetween_sampleBlock : GapBetween (Text.unifyLineEnds sampleBlock) 1 4 := by
  intro n hlow hhigh
  obtain rfl | rfl : n = 2 ∨ n = 3 := by omega
  · refine .inl fun line hget => ?_
    have hsecond : (Text.lines (Text.unifyLineEnds sampleBlock))[2 - 1]? = some [] := by cbv
    cases hsecond.symm.trans hget
    intro c hc
    cases hc
  · refine .inr ⟨(segments (Text.unifyLineEnds sampleBlock)).take 3, ⟨.lineComment, "// b".toList⟩,
      (segments (Text.unifyLineEnds sampleBlock)).drop 4, "// b".toList, ?_, rfl, ?_, ?_⟩
    · cbv
    · cbv
    · cbv

theorem not_slashedLine_sampleBlock : ¬ SlashedLine (Text.unifyLineEnds sampleBlock) 1 := by
  rintro ⟨line, hget, hslashes⟩
  have hfirst : (Text.lines (Text.unifyLineEnds sampleBlock))[1 - 1]? = some "/** a */".toList := by
    cbv
  cases hfirst.symm.trans hget
  revert hslashes
  decide

theorem nearest_block_found_iff_sampleBlock :
    (⟨0, 8⟩ : Span) ∈ javadocSpans (Text.unifyLineEnds sampleBlock) ∧
      lastLineOf (Text.unifyLineEnds sampleBlock) ⟨0, 8⟩ = 1 ∧
      GapBetween (Text.unifyLineEnds sampleBlock) 1 4 ∧ FoundOn "" sampleBlock 1 4 := by
  have hspan : (⟨0, 8⟩ : Span) ∈ javadocSpans (Text.unifyLineEnds sampleBlock) := by decide_cbv
  have hline : lastLineOf (Text.unifyLineEnds sampleBlock) ⟨0, 8⟩ = 1 := by cbv
  have hgap := gapBetween_sampleBlock
  have hslashed := not_slashedLine_sampleBlock
  rw [← hline] at hgap hslashed
  have hfound := (nearest_block_found_iff "" sampleBlock hspan (by rw [hline]; decide) hgap).1
  refine ⟨hspan, hline, gapBetween_sampleBlock, ?_⟩
  rw [← hline]
  exact hfound.2 hslashed

/-- A block is found from each line that only blank lines and line comments separate from it. -/
def FindsBlocks (text : List Char) : Prop :=
  ∀ span ∈ javadocSpans (Text.unifyLineEnds text), ∀ number : Int,
    (lastLineOf (Text.unifyLineEnds text) span : Int) < number →
    GapBetween (Text.unifyLineEnds text) (lastLineOf (Text.unifyLineEnds text) span) number →
    FoundOn "" text (lastLineOf (Text.unifyLineEnds text) span) number

/-- A block whose last line begins with two slashes. -/
def slashedBlock : List Char :=
  "/**\n// */\nclass A \x7b\x7d".toList

/-- The last line of a block is passed when it begins with two slashes. -/
theorem not_findsBlocks : ¬ FindsBlocks slashedBlock := by
  intro h
  have hspan : (⟨0, 9⟩ : Span) ∈ javadocSpans (Text.unifyLineEnds slashedBlock) := by decide_cbv
  have hline : lastLineOf (Text.unifyLineEnds slashedBlock) ⟨0, 9⟩ = 2 := by cbv
  have hgap : GapBetween (Text.unifyLineEnds slashedBlock) 2 3 := by
    intro n hlow hhigh
    omega
  have hnone : (Source.ofText "" slashedBlock).javadocBefore? 3 = none := by cbv
  rw [← hline] at hgap
  obtain ⟨found, _, hfound, _⟩ := h _ hspan 3 (by rw [hline]; decide) hgap
  rw [hnone] at hfound
  cases hfound

end JavadocTags.Java
