import JavadocTags.Java.Segment

/-!
# Segmentations

What the segments of a text are, said by where each kind ends and not by how the end is searched
for. A reading passes places of a text; a place is given by the text from it on. Where escapes
count, a backslash and the character after it are passed in one step, so that no place lies between
them, and a backslash at the very end is not passed at all.

The main statement is that every text has exactly one segmentation, that masking blanks what lies
outside its code segments and nothing else, and that the Javadoc spans are those of its closed block
comments with the right beginning.
-/
namespace JavadocTags.Java

/-- The places that a reading of a text passes. -/
inductive Reached (escapes : Bool) : List Char → List Char → Prop
  | here {text : List Char} : Reached escapes text text
  | step {c : Char} {text place : List Char} :
      (escapes = true → c ≠ '\\') → Reached escapes text place → Reached escapes (c :: text) place
  | pair {c : Char} {text place : List Char} :
      escapes = true → Reached escapes text place → Reached escapes ('\\' :: c :: text) place

/-- The first place that a reading passes and that satisfies a condition. -/
structure First (escapes : Bool) (p : List Char → Prop) (text place : List Char) : Prop where
  reached : Reached escapes text place
  holds : p place
  first : ∀ other, Reached escapes text other → p other → other.length ≤ place.length

/-- No place that a reading passes satisfies a condition. -/
def Never (escapes : Bool) (p : List Char → Prop) (text : List Char) : Prop :=
  ∀ place, Reached escapes text place → ¬ p place

/-- A segment goes on to `width` characters behind the first place that satisfies a condition, or
to the end of the text if there is none. -/
def EndsBehind (escapes : Bool) (p : List Char → Prop) (width : Nat) (text rest : List Char) :
    Prop :=
  (∃ place, First escapes p text place ∧ rest = place.drop width) ∨
    (Never escapes p text ∧ rest = [])

/-- The kind of the segment at the start of a text, and the text behind it. -/
inductive Cut : List Char → SegmentKind → List Char → Prop
  | lineComment {text rest : List Char} :
      EndsBehind false (['\n'] <+: ·) 0 text rest → Cut ('/' :: '/' :: text) .lineComment rest
  | blockComment {text place : List Char} :
      First false (['*', '/'] <+: ·) text place →
      Cut ('/' :: '*' :: text) (.blockComment true) (place.drop 2)
  | openBlockComment {text : List Char} :
      Never false (['*', '/'] <+: ·) text → Cut ('/' :: '*' :: text) (.blockComment false) []
  | textBlock {text rest : List Char} :
      EndsBehind true (['"', '"', '"'] <+: ·) 3 text rest →
      Cut ('"' :: '"' :: '"' :: text) .textBlock rest
  | literal {quote : Char} {text rest : List Char} :
      quote = '"' ∨ quote = '\'' → ¬ ['"', '"', '"'] <+: quote :: text →
      EndsBehind true (fun place => [quote] <+: place ∨ ['\n'] <+: place) 1 text rest →
      Cut (quote :: text) (.literal quote) rest
  | code {c : Char} {text : List Char} :
      ¬ ['/', '/'] <+: c :: text → ¬ ['/', '*'] <+: c :: text → c ≠ '"' → c ≠ '\'' →
      Cut (c :: text) .code text

/-- A text as segments, each of which begins where the one before it ends. -/
inductive Segmentation : List Char → List Segment → Prop
  | nil : Segmentation [] []
  | cons {kind : SegmentKind} {body rest : List Char} {segs : List Segment} :
      Cut (body ++ rest) kind rest → Segmentation rest segs →
      Segmentation (body ++ rest) (⟨kind, body⟩ :: segs)

section Places
variable {escapes : Bool} {p : List Char → Prop} {text place : List Char}

theorem Reached.suffix (h : Reached escapes text place) : place <:+ text := by
  induction h with
  | here => exact List.suffix_rfl
  | step _ _ ih => exact ih.trans (List.suffix_cons _ _)
  | pair _ _ ih => exact ih.trans ((List.suffix_cons _ _).trans (List.suffix_cons _ _))

theorem First.here (h : p text) : First escapes p text text :=
  ⟨.here, h, fun _ hother _ => hother.suffix.length_le⟩

theorem Reached.of_step {c : Char} (hc : escapes = true → c ≠ '\\')
    (h : Reached escapes (c :: text) place) : place = c :: text ∨ Reached escapes text place := by
  cases h with
  | here => exact .inl rfl
  | step _ h => exact .inr h
  | pair hescapes _ => exact absurd rfl (hc hescapes)

theorem Reached.of_pair {c : Char} (hescapes : escapes = true)
    (h : Reached escapes ('\\' :: c :: text) place) :
    place = '\\' :: c :: text ∨ Reached escapes text place := by
  cases h with
  | here => exact .inl rfl
  | step hc _ => exact absurd rfl (hc hescapes)
  | pair _ h => exact .inr h

theorem First.step {c : Char} (hc : escapes = true → c ≠ '\\') (hp : ¬ p (c :: text))
    (h : First escapes p text place) : First escapes p (c :: text) place := by
  refine ⟨.step hc h.reached, h.holds, ?_⟩
  intro other hother hholds
  rcases hother.of_step hc with rfl | hother
  · exact absurd hholds hp
  · exact h.first other hother hholds

theorem First.pair {c : Char} (hescapes : escapes = true) (hp : ¬ p ('\\' :: c :: text))
    (h : First escapes p text place) : First escapes p ('\\' :: c :: text) place := by
  refine ⟨.pair hescapes h.reached, h.holds, ?_⟩
  intro other hother hholds
  rcases hother.of_pair hescapes with rfl | hother
  · exact absurd hholds hp
  · exact h.first other hother hholds

theorem Never.nil (hp : ¬ p []) : Never escapes p [] := by
  intro place h
  cases h with
  | here => exact hp

theorem Never.step {c : Char} (hc : escapes = true → c ≠ '\\') (hp : ¬ p (c :: text))
    (h : Never escapes p text) : Never escapes p (c :: text) := by
  intro place hplace
  rcases hplace.of_step hc with rfl | hplace
  · exact hp
  · exact h place hplace

theorem Never.pair {c : Char} (hescapes : escapes = true) (hp : ¬ p ('\\' :: c :: text))
    (h : Never escapes p text) : Never escapes p ('\\' :: c :: text) := by
  intro place hplace
  rcases hplace.of_pair hescapes with rfl | hplace
  · exact hp
  · exact h place hplace

/-- A backslash at the end hides the end of the text from a reading with escapes. -/
theorem Never.backslash (hescapes : escapes = true) (hp : ¬ p ['\\']) :
    Never escapes p ['\\'] := by
  intro place hplace
  cases hplace with
  | here => exact hp
  | step hc _ => exact absurd rfl (hc hescapes)

theorem First.unique {other : List Char} (h : First escapes p text place)
    (hother : First escapes p text other) : place = other := by
  have hle := h.first other hother.reached hother.holds
  have hge := hother.first place h.reached h.holds
  have hplace := List.suffix_iff_eq_drop.1 h.reached.suffix
  have hotherDrop := List.suffix_iff_eq_drop.1 hother.reached.suffix
  rw [hplace, hotherDrop, Nat.le_antisymm hge hle]

theorem EndsBehind.unique {width : Nat} {rest other : List Char}
    (h : EndsBehind escapes p width text rest) (hother : EndsBehind escapes p width text other) :
    rest = other := by
  rcases h with ⟨place, hplace, rfl⟩ | ⟨hnever, rfl⟩
  · rcases hother with ⟨place', hplace', rfl⟩ | ⟨hnever, rfl⟩
    · rw [hplace.unique hplace']
    · exact absurd hplace.holds (hnever _ hplace.reached)
  · rcases hother with ⟨place, hplace, rfl⟩ | ⟨_, rfl⟩
    · exact absurd hplace.holds (hnever _ hplace.reached)
    · rfl

theorem EndsBehind.here {width : Nat} (h : p text) :
    EndsBehind escapes p width text (text.drop width) :=
  .inl ⟨text, .here h, rfl⟩

theorem EndsBehind.step {width : Nat} {c : Char} {rest : List Char}
    (hc : escapes = true → c ≠ '\\') (hp : ¬ p (c :: text))
    (h : EndsBehind escapes p width text rest) : EndsBehind escapes p width (c :: text) rest := by
  rcases h with ⟨place, hplace, rfl⟩ | ⟨hnever, rfl⟩
  · exact .inl ⟨place, hplace.step hc hp, rfl⟩
  · exact .inr ⟨hnever.step hc hp, rfl⟩

theorem EndsBehind.pair {width : Nat} {c : Char} {rest : List Char} (hescapes : escapes = true)
    (hp : ¬ p ('\\' :: c :: text)) (h : EndsBehind escapes p width text rest) :
    EndsBehind escapes p width ('\\' :: c :: text) rest := by
  rcases h with ⟨place, hplace, rfl⟩ | ⟨hnever, rfl⟩
  · exact .inl ⟨place, hplace.pair hescapes hp, rfl⟩
  · exact .inr ⟨hnever.pair hescapes hp, rfl⟩

end Places

theorem dropWhile_endsBehind (text : List Char) :
    EndsBehind false (['\n'] <+: ·) 0 text (text.dropWhile (· ≠ '\n')) := by
  induction text with
  | nil => exact .inr ⟨.nil (by simp), rfl⟩
  | cons c text ih =>
      by_cases hc : c = '\n'
      · subst hc
        exact EndsBehind.here (by simp)
      · rw [List.dropWhile_cons_of_pos (by simp [hc])]
        exact ih.step (by simp) (by simpa using Ne.symm hc)

theorem splitBlockEnd_first {text : List Char} (h : (splitBlockEnd text).2.2 = true) :
    ∃ place, First false (['*', '/'] <+: ·) text place ∧
      (splitBlockEnd text).2.1 = place.drop 2 := by
  fun_induction splitBlockEnd text with
  | case1 => cases h
  | case2 rest => exact ⟨_, .here (by simp), rfl⟩
  | case3 c rest hno body after closed hrec ih =>
      rw [hrec] at ih
      obtain ⟨place, hplace, hafter⟩ := ih h
      refine ⟨place, hplace.step (by simp) ?_, hafter⟩
      rintro ⟨tail, htail⟩
      obtain ⟨rfl, rfl⟩ := List.cons.inj htail
      exact hno _ rfl rfl

theorem splitBlockEnd_never {text : List Char} (h : (splitBlockEnd text).2.2 = false) :
    Never false (['*', '/'] <+: ·) text ∧ (splitBlockEnd text).2.1 = [] := by
  fun_induction splitBlockEnd text with
  | case1 => exact ⟨.nil (by simp), rfl⟩
  | case2 rest => cases h
  | case3 c rest hno body after closed hrec ih =>
      rw [hrec] at ih
      obtain ⟨hnever, hafter⟩ := ih h
      refine ⟨hnever.step (by simp) ?_, hafter⟩
      rintro ⟨tail, htail⟩
      obtain ⟨rfl, rfl⟩ := List.cons.inj htail
      exact hno _ rfl rfl

theorem splitTextBlockEnd_endsBehind (text : List Char) :
    EndsBehind true (['"', '"', '"'] <+: ·) 3 text (splitTextBlockEnd text).2 := by
  fun_induction splitTextBlockEnd text with
  | case1 => exact .inr ⟨.nil (by simp), rfl⟩
  | case2 rest => exact EndsBehind.here (by simp)
  | case3 c rest body after hrec ih =>
      rw [hrec] at ih
      exact ih.pair rfl (by simp)
  | case4 c rest hquotes hescape body after hrec ih =>
      have hno : ¬ ['"', '"', '"'] <+: c :: rest := by
        rintro ⟨tail, htail⟩
        obtain ⟨rfl, rfl⟩ := List.cons.inj htail
        exact hquotes _ rfl rfl
      by_cases hc : c = '\\'
      · -- Only at the end has a backslash no partner.
        cases rest with
        | nil =>
            subst hc
            rw [splitTextBlockEnd] at hrec
            cases hrec
            exact .inr ⟨.backslash rfl hno, rfl⟩
        | cons d rest => exact absurd rfl (hescape d rest hc)
      · rw [hrec] at ih
        exact ih.step (fun _ => hc) hno

theorem closesLiteral_iff {quote c : Char} {rest : List Char} :
    [quote] <+: c :: rest ∨ ['\n'] <+: c :: rest ↔ c = quote ∨ c = '\n' := by
  simp [eq_comm]

theorem splitLiteralEnd_endsBehind (quote : Char) (text : List Char) :
    EndsBehind true (fun place => [quote] <+: place ∨ ['\n'] <+: place) 1 text
      (splitLiteralEnd quote text).2 := by
  fun_induction splitLiteralEnd quote text with
  | case1 => exact .inr ⟨.nil (by simp), rfl⟩
  | case2 c =>
      by_cases hend : c = quote ∨ c = '\n'
      · exact EndsBehind.here (closesLiteral_iff.2 hend)
      · by_cases hc : c = '\\'
        · subst hc
          exact .inr ⟨.backslash rfl (mt closesLiteral_iff.1 hend), rfl⟩
        · exact .inr ⟨(Never.nil (by simp)).step (fun _ => hc) (mt closesLiteral_iff.1 hend), rfl⟩
  | case3 c d rest hend => exact EndsBehind.here (closesLiteral_iff.2 hend)
  | case4 d rest body after hrec hend ih =>
      rw [hrec] at ih
      exact ih.pair rfl (mt closesLiteral_iff.1 hend)
  | case5 c d rest hend hc body after hrec ih =>
      rw [hrec] at ih
      exact ih.step (fun _ => hc) (mt closesLiteral_iff.1 hend)

theorem cut_splitSegment (c : Char) (text : List Char) :
    Cut (c :: text) (splitSegment c text).1.kind (splitSegment c text).2 := by
  unfold splitSegment
  split
  · exact .lineComment (dropWhile_endsBehind _)
  · rename_i text
    cases hclosed : (splitBlockEnd text).2.2 with
    | true =>
        obtain ⟨place, hplace, hafter⟩ := splitBlockEnd_first hclosed
        simp only [hclosed, hafter]
        exact .blockComment hplace
    | false =>
        obtain ⟨hnever, hafter⟩ := splitBlockEnd_never hclosed
        simp only [hclosed, hafter]
        exact .openBlockComment hnever
  · exact .textBlock (splitTextBlockEnd_endsBehind _)
  · rename_i hline hblock hquotes
    split
    · rename_i hquote
      refine .literal hquote ?_ (splitLiteralEnd_endsBehind c text)
      rintro ⟨tail, htail⟩
      obtain ⟨rfl, rfl⟩ := List.cons.inj htail
      exact hquotes _ rfl rfl
    · rename_i hquote
      rw [not_or] at hquote
      refine .code ?_ ?_ hquote.1 hquote.2
      · rintro ⟨tail, htail⟩
        obtain ⟨rfl, rfl⟩ := List.cons.inj htail
        exact hline _ rfl rfl
      · rintro ⟨tail, htail⟩
        obtain ⟨rfl, rfl⟩ := List.cons.inj htail
        exact hblock _ rfl rfl

theorem Cut.exists_cons {text rest : List Char} {kind : SegmentKind} (h : Cut text kind rest) :
    ∃ c tail, text = c :: tail := by
  cases h <;> exact ⟨_, _, rfl⟩

theorem Cut.unique {text rest rest' : List Char} {kind kind' : SegmentKind}
    (h : Cut text kind rest) (h' : Cut text kind' rest') : kind = kind' ∧ rest = rest' := by
  cases h with
  | lineComment hend =>
      cases h' with
      | lineComment hend' => exact ⟨rfl, hend.unique hend'⟩
      | literal hquote _ _ => simp at hquote
      | code hline _ _ _ => simp at hline
  | blockComment hplace =>
      cases h' with
      | blockComment hplace' => rw [hplace.unique hplace']; exact ⟨rfl, rfl⟩
      | openBlockComment hnever => exact absurd hplace.holds (hnever _ hplace.reached)
      | literal hquote _ _ => simp at hquote
      | code _ hblock _ _ => simp at hblock
  | openBlockComment hnever =>
      cases h' with
      | blockComment hplace => exact absurd hplace.holds (hnever _ hplace.reached)
      | openBlockComment _ => exact ⟨rfl, rfl⟩
      | literal hquote _ _ => simp at hquote
      | code _ hblock _ _ => simp at hblock
  | textBlock hend =>
      cases h' with
      | textBlock hend' => exact ⟨rfl, hend.unique hend'⟩
      | literal _ hquotes _ => simp at hquotes
      | code _ _ hquote _ => exact absurd rfl hquote
  | literal hquote hquotes hend =>
      cases h' with
      | lineComment _ => simp at hquote
      | blockComment _ => simp at hquote
      | openBlockComment _ => simp at hquote
      | textBlock _ => simp at hquotes
      | literal _ _ hend' => exact ⟨rfl, hend.unique hend'⟩
      | code _ _ hdouble hsingle => exact absurd hquote (not_or.2 ⟨hdouble, hsingle⟩)
  | code hline hblock hdouble hsingle =>
      cases h' with
      | lineComment _ => simp at hline
      | blockComment _ => simp at hblock
      | openBlockComment _ => simp at hblock
      | textBlock _ => exact absurd rfl hdouble
      | literal hquote _ _ => exact absurd hquote (not_or.2 ⟨hdouble, hsingle⟩)
      | code _ _ _ _ => exact ⟨rfl, rfl⟩

theorem segmentation_segments (text : List Char) : Segmentation text (segments text) := by
  fun_induction segments text with
  | case1 => exact .nil
  | case2 c rest ih =>
      have hcut := cut_splitSegment c rest
      rw [← splitSegment_append c rest] at hcut ⊢
      exact .cons hcut ih

/-- A segmentation is found by splitting segments off from the left. -/
theorem Segmentation.eq_segments {text : List Char} {segs : List Segment}
    (h : Segmentation text segs) : segs = segments text := by
  induction h with
  | nil => rw [segments]
  | @cons kind body rest segs hcut _ ih =>
      obtain ⟨c, tail, htext⟩ := hcut.exists_cons
      rw [htext] at hcut ⊢
      obtain ⟨hkind, hrest⟩ := hcut.unique (cut_splitSegment c tail)
      have hbody : body = (splitSegment c tail).1.text := by
        have happend := splitSegment_append c tail
        rw [← hrest, ← htext] at happend
        exact (List.append_cancel_right happend).symm
      rw [segments, ← hrest, ← ih, hkind, hbody]

/-- A code segment is one character, at which nothing else begins. -/
theorem Cut.exists_code {body rest : List Char} (h : Cut (body ++ rest) .code rest) :
    ∃ c, body = [c] ∧ ¬ ['/', '/'] <+: c :: rest ∧ ¬ ['/', '*'] <+: c :: rest ∧
      c ≠ '"' ∧ c ≠ '\'' := by
  obtain ⟨c, tail, htext⟩ := h.exists_cons
  rw [htext] at h
  cases h with
  | code hline hblock hdouble hsingle =>
      have hbody : body = [c] := List.append_cancel_right (htext.trans (List.singleton_append).symm)
      exact ⟨c, hbody, hline, hblock, hdouble, hsingle⟩

theorem Segmentation.code_length {text : List Char} {segs : List Segment}
    (h : Segmentation text segs) {s : Segment} (hs : s ∈ segs) (hcode : s.kind = .code) :
    s.text.length = 1 := by
  induction h with
  | nil => cases hs
  | @cons kind body rest segs hcut _ ih =>
      rcases List.mem_cons.1 hs with rfl | hs
      · have hkind : kind = .code := hcode
        rw [hkind] at hcut
        obtain ⟨c, rfl, _⟩ := hcut.exists_code
        rfl
      · exact ih hs

theorem masked_eq_map (s : Segment) :
    s.masked = s.text.map fun c => if s.kind = .code ∨ c = '\n' then c else ' ' := by
  unfold Segment.masked
  split
  · rename_i hcode
    rw [hcode]
    simp
  · rename_i hcode
    refine List.map_congr_left fun c _ => ?_
    by_cases hc : c = '\n'
    · rw [if_pos hc, if_pos (.inr hc), hc]
    · rw [if_neg hc, if_neg (not_or.2 ⟨fun h => hcode h, hc⟩)]

theorem masked_of_kind_ne_code {s : Segment} (h : s.kind ≠ .code) : s.masked = blankOut s.text := by
  unfold Segment.masked
  split
  · rename_i hcode
    exact absurd hcode h
  · rfl

theorem isJavadoc_iff (s : Segment) :
    s.isJavadoc = true ↔ s.kind = .blockComment true ∧ ['/', '*', '*'] <+: s.text ∧
      ¬ ['/', '*', '*', '/'] <+: s.text := by
  simp [Segment.isJavadoc, and_assoc, ← Bool.not_eq_true]

theorem mem_javadocSpansFrom (offset : Nat) (segs : List Segment) (span : Span) :
    span ∈ javadocSpansFrom offset segs ↔ ∃ before s after, segs = before ++ s :: after ∧
      s.isJavadoc = true ∧ span.start = offset + (before.flatMap Segment.text).length ∧
      span.stop = span.start + s.text.length := by
  induction segs generalizing offset with
  | nil => simp [javadocSpansFrom]
  | cons s segs ih =>
      have hlater : span ∈ javadocSpansFrom (offset + s.text.length) segs ↔
          ∃ before t after, s :: segs = (s :: before) ++ t :: after ∧ t.isJavadoc = true ∧
            span.start = offset + ((s :: before).flatMap Segment.text).length ∧
            span.stop = span.start + t.text.length := by
        rw [ih]
        simp [Nat.add_assoc]
      have hsplit : (∃ before t after, s :: segs = before ++ t :: after ∧ t.isJavadoc = true ∧
            span.start = offset + (before.flatMap Segment.text).length ∧
            span.stop = span.start + t.text.length) ↔
          (s.isJavadoc = true ∧ span = ⟨offset, offset + s.text.length⟩) ∨
            span ∈ javadocSpansFrom (offset + s.text.length) segs := by
        rw [hlater]
        constructor
        · rintro ⟨before, t, after, hsegs, hjavadoc, hstart, hstop⟩
          cases before with
          | nil =>
              obtain ⟨rfl, rfl⟩ := List.cons.inj hsegs
              refine .inl ⟨hjavadoc, ?_⟩
              obtain ⟨start, stop⟩ := span
              simp only [List.flatMap_nil, List.length_nil, Nat.add_zero] at hstart hstop
              rw [hstop, hstart]
          | cons u before =>
              obtain ⟨rfl, _⟩ := List.cons.inj hsegs
              exact .inr ⟨before, t, after, hsegs, hjavadoc, hstart, hstop⟩
        · rintro (⟨hjavadoc, rfl⟩ | ⟨before, t, after, hsegs, hrest⟩)
          · exact ⟨[], s, segs, rfl, hjavadoc, rfl, rfl⟩
          · exact ⟨s :: before, t, after, hsegs, hrest⟩
      rw [hsplit, javadocSpansFrom]
      by_cases hjavadoc : s.isJavadoc = true
      · simp [hjavadoc]
      · simp [hjavadoc]

theorem javadocSpansFrom_pairwise (offset : Nat) (segs : List Segment) :
    (javadocSpansFrom offset segs).Pairwise fun a b => a.stop ≤ b.start := by
  induction segs generalizing offset with
  | nil => exact .nil
  | cons s segs ih =>
      have hrest := ih (offset + s.text.length)
      rw [javadocSpansFrom]
      split
      · refine .cons ?_ hrest
        intro span hspan
        obtain ⟨before, t, after, _, _, hstart, _⟩ := (mem_javadocSpansFrom _ _ _).1 hspan
        rw [hstart]
        exact Nat.le_add_right _ _
      · exact hrest

/-- A text has one segmentation. Masking replaces by spaces the characters of its comments and
literals other than line feeds, and the Javadoc spans are, in order, those of its closed block
comments that begin with two stars of which the second does not end the comment. -/
theorem mask_of_unique_segmentation (text : List Char) :
    ∃ segs, Segmentation text segs ∧ (∀ other, Segmentation text other → other = segs) ∧
      segs.flatMap Segment.text = text ∧
      mask text = (segs.flatMap fun s =>
        s.text.map fun c => if s.kind = .code ∨ c = '\n' then c else ' ') ∧
      ((javadocSpans text).Pairwise fun a b => a.stop ≤ b.start) ∧
      ∀ span, span ∈ javadocSpans text ↔ ∃ before s after, segs = before ++ s :: after ∧
        s.kind = .blockComment true ∧ ['/', '*', '*'] <+: s.text ∧
        ¬ ['/', '*', '*', '/'] <+: s.text ∧
        span.start = (before.flatMap Segment.text).length ∧
        span.stop = span.start + s.text.length := by
  refine ⟨segments text, segmentation_segments text, fun other h => h.eq_segments,
    flatMap_segments text, ?_, javadocSpansFrom_pairwise 0 _, ?_⟩
  · exact congrArg (segments text).flatMap (funext masked_eq_map)
  · intro span
    rw [javadocSpans, mem_javadocSpansFrom]
    simp only [isJavadoc_iff, Nat.zero_add, and_assoc]

end JavadocTags.Java
