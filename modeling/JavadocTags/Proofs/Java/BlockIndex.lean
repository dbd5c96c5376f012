import JavadocTags.Proofs.Java.NearestJavadoc

/-!
# The blocks that a source lists

A source keeps its blocks by the line that they end on, so of several blocks that end on one line it
lists the last alone. Nothing else is lost: the blocks stand in the order of the text, each once,
and all of them are there exactly if no two end on the same line.
-/
namespace JavadocTags.Java

/-- No later one of some blocks ends on the line that a block ends on. -/
def LastOnLine (text : List Char) (spans : List Span) (span : Span) : Prop :=
  ∀ other ∈ spans, lastLineOf text other = lastLineOf text span → other.stop ≤ span.stop

instance (text : List Char) (spans : List Span) (span : Span) :
    Decidable (LastOnLine text spans span) :=
  inferInstanceAs (Decidable (∀ other ∈ spans, _))

section Spans
variable {text : List Char} {spans : List Span}

theorem javadocSpans_ascend (text : List Char) :
    (javadocSpans text).Pairwise fun a b => a.stop < b.stop := by
  apply (javadocSpansFrom_pairwise 0 (segments text)).imp_of_mem
  intro a b _ hb hle
  exact Nat.lt_of_le_of_lt hle (mem_javadocSpans_bounds hb).1

theorem lastLineOf_le {a b : Span} (hb : b ∈ javadocSpans text) (h : a.stop < b.stop) :
    lastLineOf text a ≤ lastLineOf text b := by
  have hbounds := mem_javadocSpans_bounds hb
  apply positionIn_line_le
  · omega
  · omega

theorem lastOnLine_cons_iff {a span : Span} (h : a.stop < span.stop) :
    LastOnLine text (a :: spans) span ↔ LastOnLine text spans span := by
  rw [LastOnLine, List.forall_mem_cons]
  constructor
  · intro hlast
    exact hlast.2
  · intro hlast
    exact ⟨fun _ => Nat.le_of_lt h, hlast⟩

theorem lastOnLine_head_iff {a : Span} (h : ∀ b ∈ spans, a.stop < b.stop) :
    LastOnLine text (a :: spans) a ↔ ¬ ∃ b ∈ spans, lastLineOf text b = lastLineOf text a := by
  rw [LastOnLine, List.forall_mem_cons]
  constructor
  · intro hlast hfollowed
    obtain ⟨b, hb, hline⟩ := hfollowed
    exact absurd (hlast.2 b hb hline) (Nat.not_le.2 (h b hb))
  · intro hlast
    exact ⟨fun _ => Nat.le_refl _, fun b hb hline => absurd ⟨b, hb, hline⟩ hlast⟩

theorem any_endLine_iff {a : Span} (ha : a ∈ javadocSpans text)
    (hspans : ∀ span ∈ spans, span ∈ javadocSpans text) :
    (spans.map (blockAt text)).any (·.endLine == (blockAt text a).endLine) = true ↔
      ∃ b ∈ spans, lastLineOf text b = lastLineOf text a := by
  rw [List.any_map, List.any_eq_true]
  apply exists_congr
  intro b
  apply and_congr_right
  intro hb
  rw [Function.comp_apply, beq_iff_eq, endLine_blockAt (hspans b hb), endLine_blockAt ha,
    Int.natCast_inj, lastLineOf, lastLineOf]

/-- Keeping the last block of each line is leaving out those that a later one follows there. -/
theorem lastOnEachLine_map (hspans : ∀ span ∈ spans, span ∈ javadocSpans text)
    (hascend : spans.Pairwise fun a b => a.stop < b.stop) :
    lastOnEachLine (spans.map (blockAt text)) =
      (spans.filter fun span => LastOnLine text spans span).map (blockAt text) := by
  induction spans with
  | nil => rfl
  | cons a spans ih =>
      rw [List.forall_mem_cons] at hspans
      rw [List.pairwise_cons] at hascend
      have hlater : spans.filter (fun span => LastOnLine text (a :: spans) span) =
          spans.filter (fun span => LastOnLine text spans span) := by
        apply List.filter_congr
        intro span hspan
        rw [decide_eq_decide]
        exact lastOnLine_cons_iff (hascend.1 span hspan)
      rw [List.map_cons, lastOnEachLine, List.filter_cons, hlater, ih hspans.2 hascend.2]
      simp only [any_endLine_iff hspans.1 hspans.2, decide_eq_true_iff,
        lastOnLine_head_iff hascend.1]
      by_cases hfollowed : ∃ b ∈ spans, lastLineOf text b = lastLineOf text a
      · rw [if_pos hfollowed, if_neg (not_not.2 hfollowed)]
      · rw [if_neg hfollowed, if_pos hfollowed, List.map_cons]

end Spans

/-- The blocks that are the last to end on their line. -/
def lastSpans (text : List Char) : List Span :=
  (javadocSpans text).filter fun span => LastOnLine text (javadocSpans text) span

@[simp] theorem mem_lastSpans_iff {text : List Char} {span : Span} :
    span ∈ lastSpans text ↔
      span ∈ javadocSpans text ∧ LastOnLine text (javadocSpans text) span := by
  rw [lastSpans, List.mem_filter, decide_eq_true_iff]

theorem lastSpans_ascend (text : List Char) :
    (lastSpans text).Pairwise fun a b => lastLineOf text a < lastLineOf text b := by
  apply ((javadocSpans_ascend text).filter _).imp_of_mem
  intro a b ha hb hlt
  rw [← lastSpans, mem_lastSpans_iff] at ha hb
  have hle := lastLineOf_le hb.1 hlt
  apply Nat.lt_of_le_of_ne hle
  intro hline
  exact absurd (ha.2 b hb.1 hline.symm) (Nat.not_le.2 hlt)

theorem lastSpans_eq_iff (text : List Char) :
    lastSpans text = javadocSpans text ↔ ((javadocSpans text).map (lastLineOf text)).Nodup := by
  constructor
  · intro h
    have hascend := lastSpans_ascend text
    rw [h] at hascend
    exact List.pairwise_map.2 (hascend.imp Nat.ne_of_lt)
  · intro h
    apply List.filter_eq_self.2
    intro span hspan
    rw [decide_eq_true_iff]
    intro other hother hline
    rw [List.inj_on_of_nodup_map h hother hspan hline]

/-- A source lists, in the order of the text and by ascending lines, each block that is the last one
to end on its line. These are all blocks exactly if no two of them end on one line. -/
theorem javadocs_complete_iff (path : String) (text : List Char) :
    (Source.ofText path text).javadocs =
        (lastSpans (Text.unifyLineEnds text)).map (blockAt (Text.unifyLineEnds text)) ∧
      ((Source.ofText path text).javadocs.Pairwise fun a b => a.endLine < b.endLine) ∧
      ((Source.ofText path text).javadocs = docComments (Text.unifyLineEnds text) ↔
        ((javadocSpans (Text.unifyLineEnds text)).map
          (lastLineOf (Text.unifyLineEnds text))).Nodup) := by
  have hlisted : (Source.ofText path text).javadocs =
      (lastSpans (Text.unifyLineEnds text)).map (blockAt (Text.unifyLineEnds text)) :=
    lastOnEachLine_map (fun _ hspan => hspan) (javadocSpans_ascend _)
  rw [hlisted]
  generalize Text.unifyLineEnds text = unified
  refine ⟨rfl, ?_, ?_⟩
  · rw [List.pairwise_map]
    apply (lastSpans_ascend unified).imp_of_mem
    intro a b ha hb hlt
    rw [endLine_blockAt (mem_lastSpans_iff.1 ha).1, endLine_blockAt (mem_lastSpans_iff.1 hb).1]
    exact_mod_cast hlt
  · rw [← lastSpans_eq_iff]
    constructor
    · intro h
      have hlength := congrArg List.length h
      rw [docComments, List.length_map, List.length_map] at hlength
      exact List.filter_sublist.eq_of_length hlength
    · intro h
      rw [h]
      rfl

/-- All blocks of a text are listed. -/
def ListsAllBlocks (text : List Char) : Prop :=
  (Source.ofText "" text).javadocs = docComments (Text.unifyLineEnds text)

/-- Of two blocks on one line the first is not listed. -/
theorem not_listsAllBlocks : ¬ ListsAllBlocks "/** a */ /** b */".toList := by
  intro h
  have hone : (Source.ofText "" "/** a */ /** b */".toList).javadocs.length = 1 := by cbv
  have htwo : (docComments (Text.unifyLineEnds "/** a */ /** b */".toList)).length = 2 := by cbv
  rw [h, htwo] at hone
  cases hone

end JavadocTags.Java
