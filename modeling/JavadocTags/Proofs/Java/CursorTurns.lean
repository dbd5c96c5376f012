import JavadocTags.Java.Cursor

/-!
# More turns change nothing

How many turns its loops may take decides whether a walk is finished, and nothing else: a walk that
has a result has the same one with more turns. So a walk stands for a program without such a number.
-/
namespace JavadocTags.Java

variable {ts : List Token} {turns more : Nat}

/-- A walk is unfinished, or it goes as another one does. -/
def Within {α : Type} (w other : Walk α) : Prop :=
  w = .error .unfinished ∨ w = other

namespace Within

variable {α β : Type} {w other : Walk α}

theorem refl (w : Walk α) : Within w w :=
  .inr rfl

theorem unfinished (other : Walk α) : Within (.error .unfinished) other :=
  .inl rfl

theorem bind {next next' : α → Walk β} (h : Within w other)
    (hnext : ∀ a, Within (next a) (next' a)) : Within (w >>= next) (other >>= next') := by
  obtain rfl | rfl := h
  · exact unfinished _
  · cases w with
    | error fault => exact refl _
    | ok a => exact hnext a

theorem ite {p : Prop} [Decidable p] {w' other' : Walk α} (h : Within w other)
    (h' : Within w' other') : Within (if p then w else w') (if p then other else other') := by
  split
  · exact h
  · exact h'

theorem eq_ok {a : α} (h : Within w other) (hw : w = .ok a) : other = .ok a := by
  obtain h | h := h
  · rw [hw] at h
    cases h
  · rw [← h, hw]

end Within

/-- A loop that takes a turn may take more of them. -/
theorem exists_more (h : turns + 1 ≤ more) : ∃ left, more = left + 1 ∧ turns ≤ left := by
  cases more with
  | zero => exact absurd h (Nat.not_succ_le_zero turns)
  | succ left => exact ⟨left, rfl, Nat.le_of_succ_le_succ h⟩

theorem walkBrackets_within (opening closing : String) (hle : turns ≤ more) (depth : Int)
    (position : Nat) :
    Within (walkBrackets ts opening closing turns depth position)
      (walkBrackets ts opening closing more depth position) := by
  induction turns generalizing more depth position with
  | zero => exact .unfinished _
  | succ turns ih =>
      obtain ⟨more, rfl, hless⟩ := exists_more hle
      rw [walkBrackets, walkBrackets]
      refine .ite (.refl _) (.ite (ih hless _ _) (.ite ?_ (ih hless _ _)))
      exact .ite (.refl _) (ih hless _ _)

theorem walkBraces_within (hle : turns ≤ more) (position : Nat) :
    Within (walkBraces ts turns position) (walkBraces ts more position) :=
  walkBrackets_within _ _ hle 0 position

theorem walkParentheses_within (hle : turns ≤ more) (position : Nat) :
    Within (walkParentheses ts turns position) (walkParentheses ts more position) :=
  walkBrackets_within _ _ hle 0 position

theorem walkStatement_within (hle : turns ≤ more) (position : Nat) :
    Within (walkStatement ts turns position) (walkStatement ts more position) := by
  induction turns generalizing more position with
  | zero => exact .unfinished _
  | succ turns ih =>
      obtain ⟨more, rfl, hless⟩ := exists_more hle
      rw [walkStatement, walkStatement]
      refine .ite (.refl _) (.ite (.refl _) (.ite ?_ (.ite ?_ (.ite (.refl _) (ih hless _)))))
      · exact (walkBraces_within hle _).bind (ih hless)
      · exact (walkParentheses_within hle _).bind (ih hless)

theorem walkQualifiers_within (hle : turns ≤ more) (position : Nat) :
    Within (walkQualifiers ts turns position) (walkQualifiers ts more position) := by
  induction turns generalizing more position with
  | zero => exact .unfinished _
  | succ turns ih =>
      obtain ⟨more, rfl, hless⟩ := exists_more hle
      rw [walkQualifiers, walkQualifiers]
      exact .ite (ih hless _) (.refl _)

theorem walkArguments_within (hle : turns ≤ more) (position : Nat) :
    Within (walkArguments ts turns position) (walkArguments ts more position) :=
  .ite (walkParentheses_within hle position) (.refl _)

theorem walkBlock_within (hle : turns ≤ more) (position : Nat) :
    Within (walkBlock ts turns position) (walkBlock ts more position) :=
  .ite (walkBraces_within hle position) (.refl _)

theorem walkAnnotationFrom_within (hle : turns ≤ more) (position : Nat) :
    Within (walkAnnotationFrom ts turns position) (walkAnnotationFrom ts more position) := by
  refine .ite ?_ (walkArguments_within hle _)
  exact (walkQualifiers_within hle _).bind (walkArguments_within hle)

theorem walkAnnotations_within (hle : turns ≤ more) (position : Nat) :
    Within (walkAnnotations ts turns position) (walkAnnotations ts more position) := by
  induction turns generalizing more position with
  | zero => exact .unfinished _
  | succ turns ih =>
      obtain ⟨more, rfl, hless⟩ := exists_more hle
      rw [walkAnnotations, walkAnnotations]
      refine .ite ?_ (.refl _)
      exact (walkAnnotationFrom_within hle _).bind (ih hless)

theorem walkHeader_within (hle : turns ≤ more) (position : Nat) :
    Within (walkHeader ts turns position) (walkHeader ts more position) := by
  induction turns generalizing more position with
  | zero => exact .unfinished _
  | succ turns ih =>
      obtain ⟨more, rfl, hless⟩ := exists_more hle
      rw [walkHeader, walkHeader]
      refine .ite (.refl _) (.ite ?_ (ih hless _))
      exact (walkParentheses_within hle _).bind (ih hless)

theorem walkCallableTail_within (isField : Bool) (hle : turns ≤ more) (position : Nat) :
    Within (walkCallableTail ts isField turns position)
      (walkCallableTail ts isField more position) := by
  induction turns generalizing more position with
  | zero => exact .unfinished _
  | succ turns ih =>
      obtain ⟨more, rfl, hless⟩ := exists_more hle
      rw [walkCallableTail, walkCallableTail]
      refine .ite (.refl _) (.ite (.ite ?_ (walkBraces_within hle _))
        (.ite ?_ (.ite (.refl _) (.ite (.refl _) (ih hless _)))))
      · exact (walkBraces_within hle _).bind (ih hless)
      · exact (walkParentheses_within hle _).bind (ih hless)

theorem walkConstants_within (hle : turns ≤ more) (c : Cursor) :
    Within (walkConstants ts turns c) (walkConstants ts more c) := by
  induction turns generalizing more c with
  | zero => exact .unfinished _
  | succ turns ih =>
      obtain ⟨more, rfl, hless⟩ := exists_more hle
      rw [walkConstants, walkConstants]
      refine .ite (.refl _) (.ite (.refl _) (.ite (.refl _) (.ite (ih hless _) ?_)))
      refine (Within.refl _).bind fun start => ?_
      refine (walkAnnotations_within hle _).bind fun named => .ite ?_ (ih hless _)
      refine (walkArguments_within hle _).bind fun block => ?_
      exact (walkBlock_within hle _).bind fun stop => ih hless _

theorem walkCallable_within (hle : turns ≤ more) (enclosing : Option Enclosing) (name : String)
    (start : Token) (c : Cursor) :
    Within (walkCallable ts turns enclosing name start c)
      (walkCallable ts more enclosing name start c) := by
  refine (walkParentheses_within hle _).bind fun parameters => ?_
  exact (walkCallableTail_within _ hle _).bind fun stop => .refl _

section Members
variable {body body' : Enclosing → Cursor → Walk Cursor}
  (hbody : ∀ e c, Within (body e c) (body' e c))
include hbody

theorem walkType_within (hle : turns ≤ more) (kind : Option DeclarationKind) (start : Token)
    (c : Cursor) :
    Within (walkType ts body turns kind start c) (walkType ts body' more kind start c) := by
  refine (walkHeader_within hle _).bind fun header => .ite (.ite ?_ ?_) (.refl _)
  · exact (walkConstants_within hle _).bind fun c => hbody _ c
  · exact (Within.refl _).bind fun c => hbody _ c

theorem walkMemberFrom_within (hle : turns ≤ more) (enclosing : Option Enclosing) (start : Token)
    (previous : String) (c : Cursor) :
    Within (walkMemberFrom ts body enclosing start turns previous c)
      (walkMemberFrom ts body' enclosing start more previous c) := by
  induction turns generalizing more previous c with
  | zero => exact .unfinished _
  | succ turns ih =>
      obtain ⟨more, rfl, hless⟩ := exists_more hle
      rw [walkMemberFrom, walkMemberFrom]
      refine .ite (.refl _) (.ite (walkType_within hbody hle _ _ _) (.ite ?_ ?_))
      · exact (walkAnnotationFrom_within hle _).bind fun stop => ih hless _ _
      split
      next => exact walkType_within hbody hle _ _ _
      next =>
        refine .ite (walkCallable_within hle _ _ _ _) (.ite ?_ (.ite ?_ (.ite (.refl _)
          (.ite (.refl _) (ih hless _ _)))))
        · exact (walkBraces_within hle _).bind fun stop => .refl _
        · exact (walkStatement_within hle _).bind fun stop => .refl _

theorem walkMember_within (hle : turns ≤ more) (enclosing : Option Enclosing) (c : Cursor) :
    Within (walkMember ts body turns enclosing c) (walkMember ts body' more enclosing c) := by
  refine (Within.refl _).bind fun start => .ite ?_ (.ite ?_ ?_)
  · exact (walkBraces_within hle _).bind fun stop => .refl _
  · exact (walkBraces_within hle _).bind fun stop => .refl _
  · exact walkMemberFrom_within hbody hle _ _ _ _

end Members

theorem walkBody_within (hle : turns ≤ more) (e : Enclosing) (c : Cursor) :
    Within (walkBody ts turns e c) (walkBody ts more e c) := by
  induction turns generalizing more e c with
  | zero => exact .unfinished _
  | succ turns ih =>
      obtain ⟨more, rfl, hless⟩ := exists_more hle
      rw [walkBody, walkBody]
      refine .ite (.refl _) (.ite (.refl _) (.ite (ih hless _ _) ?_))
      refine (walkMember_within (ih hless) hle _ _).bind fun next => ?_
      exact .ite (ih hless _ _) (ih hless _ _)

theorem walkFile_within (hle : turns ≤ more) (c : Cursor) :
    Within (walkFile ts turns c) (walkFile ts more c) := by
  induction turns generalizing more c with
  | zero => exact .unfinished _
  | succ turns ih =>
      obtain ⟨more, rfl, hless⟩ := exists_more hle
      rw [walkFile, walkFile]
      refine .ite (.refl _) (.ite ?_ (.ite (ih hless _) ?_))
      · exact (walkStatement_within hle _).bind fun stop => ih hless _
      · exact (walkMember_within (walkBody_within hless) hle _ _).bind fun next => ih hless _

/-- A walk that is finished has the same result with more turns. -/
theorem walk_eq_of_le {c : Cursor} (h : walk ts turns = .ok c) (hle : turns ≤ more) :
    walk ts more = .ok c :=
  (walkFile_within hle _).eq_ok h

end JavadocTags.Java
