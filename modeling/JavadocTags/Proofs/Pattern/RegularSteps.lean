import JavadocTags.Proofs.Pattern.AppendedSuffix

/-!
# Steps that fail for faults only

Whatever the reader of patterns does, it fails for a fault if it fails, and it does not get into a
quantifier in braces. The exceptions are left out here: opening, continuing and ending such a
quantifier, the check of a closing parenthesis and the end of the pattern.
-/
namespace JavadocTags.Pattern

theorem Lexeme.eq_of_isChar {x : Lexeme} {c : Char} (h : x.isChar c = true) :
    x = ⟨x.place, false, c⟩ := by
  simp only [Lexeme.isChar, Bool.and_eq_true, Bool.not_eq_true', beq_iff_eq] at h
  rw [← h.1, ← h.2]

/-- A reading that fails for faults only, and whose results have a property. -/
structure Regular {α : Type} (P : α → Prop) (r : Reading α) : Prop where
  fault {e : CompileError} : r = .error e → ∃ cause place, e = .fault cause place
  yields : Yields P r

abbrev FaultsOnly {α : Type} (r : Reading α) : Prop :=
  Regular (fun _ => True) r

namespace Regular
variable {α β : Type} {P : β → Prop} {b : β} {r r' : Reading β}

theorem ok (h : P b) : Regular P (.ok b) :=
  ⟨nofun, .ok h⟩

theorem refuse (cause : Fault) (place : Nat) : Regular P (Pattern.refuse cause place) :=
  ⟨fun h => ⟨cause, some place, (Except.error.inj h).symm⟩, .refuse cause place⟩

theorem ite {c : Prop} [Decidable c] (h : Regular P r) (h' : Regular P r') :
    Regular P (if c then r else r') := by
  split
  next => exact h
  next => exact h'

theorem bind {first : Reading α} {next : α → Reading β} (h : FaultsOnly first)
    (hnext : ∀ a, Regular P (next a)) : Regular P (first >>= next) := by
  cases first with
  | error e => exact ⟨fun he => h.fault (by cases he; rfl), nofun⟩
  | ok a => exact hnext a

theorem ne_repetitionTooLarge (h : Regular P r) : r ≠ .error .repetitionTooLarge := by
  intro heq
  obtain ⟨_, _, hfault⟩ := h.fault heq
  cases hfault

theorem ne_asciiAndUnicode (h : Regular P r) : r ≠ .error .asciiAndUnicode := by
  intro heq
  obtain ⟨_, _, hfault⟩ := h.fault heq
  cases hfault

theorem ne_limit (h : Regular P r) :
    r ≠ .error .repetitionTooLarge ∧ r ≠ .error .asciiAndUnicode :=
  ⟨h.ne_repetitionTooLarge, h.ne_asciiAndUnicode⟩

end Regular

def Stage.isBraces : Stage → Bool
  | .braces .. => true
  | _ => false

/-- The reader is not in the middle of a quantifier in braces. -/
def ReaderState.OutsideBraces (s : ReaderState) : Prop :=
  s.stage.isBraces = false

section Steps
variable {s : ReaderState} {x : Lexeme}

theorem outsideBraces_iff : s.OutsideBraces ↔
    ∀ place least comma most, s.stage ≠ .braces place least comma most := by
  unfold ReaderState.OutsideBraces
  cases s.stage with
  | braces => exact iff_of_false Bool.true_eq_false.mp fun h => h _ _ _ _ rfl
  | _ => simp [Stage.isBraces]

theorem outsideBraces_of_stage {stage : Stage} (h : s.stage = stage)
    (hstage : stage.isBraces = false) : s.OutsideBraces := by
  rw [ReaderState.OutsideBraces, h]
  exact hstage

theorem quantify_regular (place least : Nat) (most : Option Nat) :
    Regular ReaderState.OutsideBraces (quantify s place least most) := by
  unfold quantify
  split
  next => exact .refuse _ _
  next => exact .ite (.refuse _ _) (.ite (.refuse _ _) (.ok rfl))

theorem checkLookbehind_faultsOnly (index place : Nat) :
    FaultsOnly (s.checkLookbehind index place) := by
  unfold ReaderState.checkLookbehind
  split
  next => exact .ok trivial
  next => exact .ite (.refuse _ _) (.ite (.refuse _ _) (.ok trivial))

theorem finishReference_regular (e : Escape) (here : Nat) :
    Regular ReaderState.OutsideBraces (finishReference s e here) := by
  refine .ite (.refuse _ _) (.ite (.refuse _ _) ?_)
  exact .bind (checkLookbehind_faultsOnly _ _) fun _ => .ok rfl

theorem plainEscape_faultsOnly (place : Nat) (c : Char) : FaultsOnly (plainEscape place c) :=
  .ite (.refuse _ _) (.ok trivial)

theorem escapeValue_faultsOnly (e : Escape) : FaultsOnly (escapeValue e) := by
  unfold escapeValue
  split
  next => exact .ite (.refuse _ _) (.ok trivial)
  next => exact .ite (.refuse _ _) (.ok trivial)

theorem takeEscape_faultsOnly [Unicode.CharacterNames] (e : Escape) :
    FaultsOnly (takeEscape e x) := by
  unfold takeEscape
  split
  next => exact .ok trivial
  next =>
    refine .ite (.ite (.refuse _ _) ?_) (.ok trivial)
    split
    next => exact .ok trivial
    next => exact .refuse _ _
  next => exact .ite (.bind (escapeValue_faultsOnly _) fun _ => .ok trivial) (.ok trivial)

theorem settleEscape_faultsOnly (e : Escape) (here : Nat) : FaultsOnly (settleEscape e here) := by
  unfold settleEscape
  split
  next => exact .refuse _ _
  next => exact .refuse _ _
  next => exact .ite (.refuse _ _) (.refuse _ _)
  next => exact escapeValue_faultsOnly _

theorem beginEscape_regular : Regular ReaderState.OutsideBraces (beginEscape s x) := by
  unfold beginEscape
  split
  next => exact .ok rfl
  next =>
    split
    next => exact .ok rfl
    next =>
      split
      next => exact .ok rfl
      next =>
        split
        next => exact .ok rfl
        next => exact .bind (plainEscape_faultsOnly _ _) fun _ => .ok rfl

theorem finishSet_outsideBraces (negated : Bool) (members : List SetItem) :
    (finishSet s negated members).OutsideBraces := by
  unfold finishSet
  split <;> exact rfl

theorem addMember_faultsOnly (t : SetState) (item : SetItem) (written : List Char) (here : Nat) :
    FaultsOnly (addMember t item written here) := by
  unfold addMember
  split
  next =>
    simp only
    split
    next => exact .ite (.refuse _ _) (.ok trivial)
    next => exact .refuse _ _
  next => exact .ok trivial

theorem takeMember_regular (t : SetState) :
    Regular ReaderState.OutsideBraces (takeMember s t x) := by
  have hadd (t : SetState) (item : SetItem) (written : List Char) (here : Nat) :
      Regular ReaderState.OutsideBraces
        (addMember t item written here >>= fun t => .ok { s with stage := .set t }) :=
    .bind (addMember_faultsOnly _ _ _ _) fun _ => .ok rfl
  refine .ite ?_ (hadd _ _ _ _)
  simp only
  split
  next => exact hadd _ _ _ _
  next => exact hadd _ _ _ _
  next =>
    split
    next => exact .ok rfl
    next => exact .bind (plainEscape_faultsOnly _ _) fun _ => hadd _ _ _ _

theorem takeInSet_regular (t : SetState) :
    Regular ReaderState.OutsideBraces (takeInSet s t x) := by
  have hfinish (negated : Bool) (members : List SetItem) :
      Regular ReaderState.OutsideBraces (.ok (finishSet s negated members)) :=
    .ok (finishSet_outsideBraces _ _)
  unfold takeInSet
  split
  next => exact .ite (.ok rfl) (takeMember_regular _)
  next => exact .ite (hfinish _ _) (takeMember_regular _)
  next => exact .ite (.ok rfl) (.ite (hfinish _ _) (takeMember_regular _))
  next => exact .ite (hfinish _ _) (takeMember_regular _)

theorem takeFlagOn_regular (place : Nat) (on : Flags) :
    Regular ReaderState.OutsideBraces (takeFlagOn s place on x) := by
  unfold takeFlagOn
  split
  next => exact .refuse _ _
  next => exact .ite (.refuse _ _) (.ok rfl)

theorem takeFlagOff_regular (place : Nat) (on off : Flags) :
    Regular ReaderState.OutsideBraces (takeFlagOff s place on off x) := by
  unfold takeFlagOff
  split
  next => exact .refuse _ _
  next => exact .ite (.refuse _ _) (.ok rfl)

theorem setGlobalFlags_regular (place : Nat) (on : Flags) :
    Regular ReaderState.OutsideBraces (setGlobalFlags s place on) := by
  simp only [setGlobalFlags]
  split
  next => exact .ite (.ok rfl) (.refuse _ _)
  next => exact .refuse _ _

theorem enterFlagged_regular (place colon : Nat) (on off : Flags) :
    Regular ReaderState.OutsideBraces (enterFlagged s place colon on off) :=
  .ite (.refuse _ _) (.ite (.refuse _ _) (.ite (.refuse _ _) (.ok rfl)))

theorem takeInFlagsOn_regular (place : Nat) (on : Flags) :
    Regular ReaderState.OutsideBraces (takeInFlagsOn s place on x) := by
  refine .ite (setGlobalFlags_regular _ _) ?_
  refine .ite (enterFlagged_regular _ _ _ _) ?_
  refine .ite (.ite (.refuse _ _) (.ok rfl)) ?_
  exact .ite (takeFlagOn_regular _ _) (.refuse _ _)

theorem takeInFlagsOff_regular (place : Nat) (on off : Flags) (first : Bool) :
    Regular ReaderState.OutsideBraces (takeInFlagsOff s place on off first x) :=
  .ite (enterFlagged_regular _ _ _ _) (.ite (takeFlagOff_regular _ _ _) (.refuse _ _))

theorem takeExtension_regular (place : Nat) :
    Regular ReaderState.OutsideBraces (takeExtension s place x) := by
  refine .ite (.ok rfl) (.ite (.ok rfl) (.ite (.ok rfl) ?_))
  refine .ite (.ok rfl) (.ite (.ok rfl) (.ite (.ok rfl) ?_))
  refine .ite (.ok rfl) (.ite (.ok rfl) (.ite (.ok rfl) ?_))
  exact .ite (takeFlagOn_regular _ _) (.refuse _ _)

theorem takeNamedExtension_regular (place : Nat) :
    Regular ReaderState.OutsideBraces (takeNamedExtension s place x) :=
  .ite (.ok rfl) (.ite (.ok rfl) (.refuse _ _))

theorem takeLookbehind_regular (place : Nat) :
    Regular ReaderState.OutsideBraces (takeLookbehind s place x) :=
  .ite (.ok rfl) (.refuse _ _)

theorem finishName_regular (place : Nat) (purpose : NameUse) (name : List Char) (here : Nat) :
    Regular ReaderState.OutsideBraces (finishName s place purpose name here) := by
  cases purpose with
  | capture =>
      refine .ite (.refuse _ _) ?_
      split
      next => exact .refuse _ _
      next => exact .ok rfl
  | backreference =>
      refine .ite (.refuse _ _) ?_
      split
      next => exact .refuse _ _
      next =>
        exact .ite (.refuse _ _) (.bind (checkLookbehind_faultsOnly _ _) fun _ => .ok rfl)
  | condition =>
      refine .ite ?_ ?_
      · split
        next => exact .refuse _ _
        next => exact .bind (checkLookbehind_faultsOnly _ _) fun _ => .ok rfl
      · split
        next => exact .refuse _ _
        next =>
          refine .ite (.refuse _ _) (.ite (.refuse _ _) ?_)
          exact .bind (checkLookbehind_faultsOnly _ _) fun _ => .ok rfl

theorem leaveInto_outsideBraces (hs : s.OutsideBraces) (p : Node) :
    (s.leaveInto p).OutsideBraces := by
  unfold ReaderState.leaveInto
  split
  next => exact hs
  next => exact rfl

theorem leave_outsideBraces (hs : s.OutsideBraces) : s.leave.OutsideBraces := by
  unfold ReaderState.leave
  simp only
  split
  next => exact hs
  all_goals exact leaveInto_outsideBraces hs _

/-- Only an opening brace among the items begins a quantifier in braces. -/
theorem takeItem_regular (hs : s.OutsideBraces) (hx : x.isChar '{' = false) :
    Regular ReaderState.OutsideBraces (takeItem s x) := by
  refine .ite (.ok hs) ?_
  refine .ite (.ok (leave_outsideBraces hs)) ?_
  refine .ite (.ok hs) ?_
  refine .ite (.ok rfl) ?_
  split
  next => exact beginEscape_regular
  next hescaped =>
    split
    next => exact .ok rfl
    next => exact quantify_regular _ _ _
    next => exact quantify_regular _ _ _
    next => exact quantify_regular _ _ _
    next hchar => simp [Lexeme.isChar, hescaped, hchar] at hx
    next => exact .ok rfl
    next => exact .ok rfl
    next => exact .ok rfl
    next => exact .ok rfl
    next => exact .ok rfl

theorem takeItem_brace (hx : x.isChar '{' = true) :
    takeItem s x = .ok { s with stage := .braces x.place [] false [] } := by
  rw [x.eq_of_isChar hx]
  simp [takeItem, Lexeme.isChar, Lexeme.isOneOf]

theorem take_regular [Unicode.CharacterNames] (hs : s.OutsideBraces)
    (hx : s.stage = .items → x.isChar '{' = false) :
    Regular ReaderState.OutsideBraces (take s x) := by
  unfold take
  split
  next hstage => exact takeItem_regular hs (hx hstage)
  next =>
    refine .ok ?_
    split
    next => exact rfl
    next => exact hs
  next => exact .ok (outsideBraces_of_stage (stage_finishQuantifier _ _ _ _) rfl)
  next hstage => exact absurd hstage (outsideBraces_iff.1 hs _ _ _ _)
  next =>
    refine .bind (takeEscape_faultsOnly _) fun outcome => ?_
    cases outcome with
    | more e => exact .ok rfl
    | value n => exact .ok rfl
  next => exact takeInSet_regular _
  next =>
    refine .bind (takeEscape_faultsOnly _) fun outcome => ?_
    cases outcome with
    | more e => exact .ok rfl
    | value n => exact .bind (addMember_faultsOnly _ _ _ _) fun _ => .ok rfl
  next => exact .ok rfl
  next => exact takeExtension_regular _
  next => exact takeNamedExtension_regular _
  next => exact takeLookbehind_regular _
  next => exact .ite (.ite (.refuse _ _) (finishName_regular _ _ _ _)) (.ok rfl)
  next => exact takeInFlagsOn_regular _ _
  next => exact takeInFlagsOff_regular _ _ _ _
  next =>
    refine .ok ?_
    split
    next => exact rfl
    next => exact hs

/-- A quantifier in braces goes on only where a lexeme goes on with it. -/
theorem settle_regular
    (h : ∀ place least comma most, s.stage = .braces place least comma most →
      continuesBraces least comma x = false) :
    Regular ReaderState.OutsideBraces (settle s x) := by
  unfold settle
  split
  next hstage =>
    refine .ite (.ok (outsideBraces_of_stage hstage rfl)) ?_
    exact .ok (outsideBraces_of_stage (stage_finishQuantifier _ _ _ _) rfl)
  next hstage =>
    rw [h _ _ _ _ hstage]
    exact .ok (outsideBraces_of_stage (stage_foldl_push _ rfl) rfl)
  next hstage =>
    refine .ite (.ok (outsideBraces_of_stage hstage rfl)) (.ite (finishReference_regular _ _) ?_)
    exact .bind (settleEscape_faultsOnly _ _) fun _ => .ok rfl
  next hstage =>
    refine .ite (.ok (outsideBraces_of_stage hstage rfl)) ?_
    refine .bind (settleEscape_faultsOnly _ _) fun _ => ?_
    exact .bind (addMember_faultsOnly _ _ _ _) fun _ => .ok rfl
  next hstage => exact .ite (.ok (outsideBraces_of_stage hstage rfl)) (.ok rfl)
  next hbraces _ _ _ => exact .ok (outsideBraces_iff.2 hbraces)

theorem settleEnd_faultsOnly (here : Nat) : FaultsOnly (settleEnd s here) := by
  have hreference (e : Escape) : FaultsOnly (finishReference s e here) :=
    ⟨(finishReference_regular e here).fault, fun _ _ => trivial⟩
  unfold settleEnd
  split
  next => exact .ok trivial
  next => exact .ok trivial
  next => exact .ok trivial
  next => exact .ok trivial
  next => exact .ite (hreference _) (.bind (settleEscape_faultsOnly _ _) fun _ => .ok trivial)
  next => exact .refuse _ _
  next => exact .bind (settleEscape_faultsOnly _ _) fun _ => .refuse _ _
  next => exact .ok trivial
  next => exact .refuse _ _
  next => exact .refuse _ _
  next => exact .refuse _ _
  next => exact .ite (.refuse _ _) (.refuse _ _)
  next => exact .refuse _ _
  next => exact .refuse _ _
  next => exact .refuse _ _

end Steps

end JavadocTags.Pattern
