import JavadocTags.Pattern.Reader
import JavadocTags.Proofs.Pattern.Ways

/-!
# What reading does to a pattern

The reader holds the constructs that have begun. Whatever the lexeme, a step of the reader changes
them in a few ways only: it adds an item without parts, repeats the last item, begins a construct,
ends the innermost one, or ends a branch. What all of these preserve holds of every pattern that is
read. One such property is that the capturing groups are numbered from one on without a gap.
-/
namespace JavadocTags.Pattern

/-! ## Results of readings -/

/-- Every result of a reading has a property. -/
def Yields {α : Type} (P : α → Prop) (r : Reading α) : Prop :=
  ∀ a, r = .ok a → P a

section Yields
variable {α β : Type} {P : β → Prop} {a : β}

theorem Yields.ok (h : P a) : Yields P (.ok a) := by
  intro b hb
  exact Except.ok.inj hb ▸ h

theorem Yields.error (cause : CompileError) : Yields P (.error cause) :=
  nofun

theorem Yields.refuse (cause : Fault) (place : Nat) : Yields P (refuse cause place) :=
  nofun

theorem Yields.ite {c : Prop} [Decidable c] {r r' : Reading β} (h : Yields P r)
    (h' : Yields P r') : Yields P (if c then r else r') := by
  split
  next => exact h
  next => exact h'

theorem Yields.andThen {Q : α → Prop} {r : Reading α} {next : α → Reading β} (h : Yields Q r)
    (hnext : ∀ a, Q a → Yields P (next a)) : Yields P (r >>= next) := by
  cases r with
  | error cause => exact nofun
  | ok a => exact hnext a (h a rfl)

theorem Yields.bind {r : Reading α} {next : α → Reading β} (h : ∀ a, Yields P (next a)) :
    Yields P (r >>= next) :=
  Yields.andThen (Q := fun _ => True) (fun _ _ => trivial) fun a _ => h a

end Yields

/-! ## The steps -/

/-- A construct that has just begun and captures nothing. -/
def Opening.IsUnnumbered : Opening → Prop
  | .plain none _ _ => True
  | .atomic => True
  | .lookahead _ => True
  | .lookbehind _ _ => True
  | .matched _ => True
  | _ => False

def Node.IsLeaf : Node → Prop
  | .code _ => True
  | .notCode _ => True
  | .any => True
  | .set _ _ => True
  | .anchor _ => True
  | .backreference _ => True
  | _ => False

structure SameConstructs (s t : ReaderState) : Prop where
  opening_eq : t.frame.opening = s.frame.opening
  branches_eq : t.frame.branches = s.frame.branches
  items_eq : t.frame.items = s.frame.items
  outer_eq : t.outer = s.outer
  groups_eq : t.groups = s.groups

/-- What reading does to the constructs that have begun. -/
inductive Edits : ReaderState → ReaderState → Prop
  | none {s t : ReaderState} (h : SameConstructs s t) : Edits s t
  | push (s : ReaderState) {p : Node} (hp : p.IsLeaf) : Edits s (s.push p)
  | repeated (s : ReaderState) (mode : Mode) (least : Nat) (most : Option Nat) :
      Edits s (finishQuantifier s mode least most)
  | enter (s : ReaderState) (place : Nat) {opening : Opening} (h : opening.IsUnnumbered)
      (verbose : Bool) : Edits s (s.enter place opening verbose)
  | capture (s : ReaderState) (place : Nat) : Edits s (s.enterCapture place)
  | leave (s : ReaderState) : Edits s s.leave
  | bar (s : ReaderState) : Edits s (takeBar s)
  | trans {s t u : ReaderState} (first : Edits s t) (second : Edits t u) : Edits s u

section Steps
variable {s : ReaderState} {x : Lexeme}

theorem Edits.refl (s : ReaderState) : Edits s s :=
  .none ⟨rfl, rfl, rfl, rfl, rfl⟩

theorem Edits.stage (s : ReaderState) (stage : Stage) : Edits s { s with stage } :=
  .none ⟨rfl, rfl, rfl, rfl, rfl⟩

theorem quantify_edits (place least : Nat) (most : Option Nat) :
    Yields (Edits s) (quantify s place least most) := by
  unfold quantify
  split
  next => exact .refuse _ _
  next => exact .ite (.refuse _ _) (.ite (.refuse _ _) (.ok (.stage s _)))

theorem finishBraces_edits (place : Nat) (least : List Char) (comma : Bool) (most : List Char) :
    Yields (Edits s) (finishBraces s place least comma most) := by
  refine .ite (.error _) ?_
  refine .ite (quantify_edits _ _ _) ?_
  refine .ite (.error _) ?_
  exact .ite (.refuse _ _) (quantify_edits _ _ _)

theorem edits_foldl_push (written : List Char) (s : ReaderState) :
    Edits s (written.foldl (fun s c => s.push (.code c.toNat)) s) := by
  induction written generalizing s with
  | nil => exact .refl s
  | cons c written ih => exact .trans (.push s (p := .code c.toNat) trivial) (ih _)

theorem bracesAsText_edits (least : List Char) (comma : Bool) (most : List Char) :
    Edits s (bracesAsText s least comma most) :=
  .trans (.stage s .items) (edits_foldl_push _ _)

theorem finishReference_edits (e : Escape) (here : Nat) :
    Yields (Edits s) (finishReference s e here) := by
  refine .ite (.refuse _ _) ?_
  refine .ite (.refuse _ _) ?_
  exact .bind fun _ => .ok (.push s trivial)

theorem beginEscape_edits : Yields (Edits s) (beginEscape s x) := by
  unfold beginEscape
  split
  next => exact .ok (.push s trivial)
  next =>
    split
    next => exact .ok (.push s trivial)
    next =>
      split
      next => exact .ok (.push s trivial)
      next =>
        split
        next => exact .ok (.stage s _)
        next => exact .bind fun _ => .ok (.push s trivial)

theorem finishSet_edits (negated : Bool) (members : List SetItem) :
    Edits s (finishSet s negated members) := by
  unfold finishSet
  split
  next => exact .push s (by cases negated <;> trivial)
  next => exact .push s trivial

theorem takeMember_edits (t : SetState) : Yields (Edits s) (takeMember s t x) := by
  refine .ite ?_ (.bind fun _ => .ok (.stage s _))
  simp only
  split
  next => exact .bind fun _ => .ok (.stage s _)
  next => exact .bind fun _ => .ok (.stage s _)
  next =>
    split
    next => exact .ok (.stage s _)
    next => exact .bind fun _ => .bind fun _ => .ok (.stage s _)

theorem takeInSet_edits (t : SetState) : Yields (Edits s) (takeInSet s t x) := by
  unfold takeInSet
  split
  next => exact .ite (.ok (.stage s _)) (takeMember_edits _)
  next => exact .ite (.ok (finishSet_edits _ _)) (takeMember_edits _)
  next =>
    refine .ite (.ok (.stage s _)) ?_
    exact .ite (.ok (finishSet_edits _ _)) (takeMember_edits _)
  next => exact .ite (.ok (finishSet_edits _ _)) (takeMember_edits _)

theorem takeFlagOn_edits (place : Nat) (on : Flags) :
    Yields (Edits s) (takeFlagOn s place on x) := by
  unfold takeFlagOn
  split
  next => exact .refuse _ _
  next => exact .ite (.refuse _ _) (.ok (.stage s _))

theorem takeFlagOff_edits (place : Nat) (on off : Flags) :
    Yields (Edits s) (takeFlagOff s place on off x) := by
  unfold takeFlagOff
  split
  next => exact .refuse _ _
  next => exact .ite (.refuse _ _) (.ok (.stage s _))

theorem setGlobalFlags_edits (place : Nat) (on : Flags) :
    Yields (Edits s) (setGlobalFlags s place on) := by
  simp only [setGlobalFlags]
  split
  next => exact .ite (.ok (.none ⟨rfl, rfl, rfl, rfl, rfl⟩)) (.refuse _ _)
  next => exact .refuse _ _

theorem enterFlagged_edits (place colon : Nat) (on off : Flags) :
    Yields (Edits s) (enterFlagged s place colon on off) := by
  refine .ite (.refuse _ _) ?_
  refine .ite (.refuse _ _) ?_
  exact .ite (.refuse _ _) (.ok (.enter s place (by trivial) _))

theorem takeInFlagsOn_edits (place : Nat) (on : Flags) :
    Yields (Edits s) (takeInFlagsOn s place on x) := by
  refine .ite (setGlobalFlags_edits _ _) ?_
  refine .ite (enterFlagged_edits _ _ _ _) ?_
  refine .ite (.ite (.refuse _ _) (.ok (.stage s _))) ?_
  exact .ite (takeFlagOn_edits _ _) (.refuse _ _)

theorem takeInFlagsOff_edits (place : Nat) (on off : Flags) (first : Bool) :
    Yields (Edits s) (takeInFlagsOff s place on off first x) := by
  refine .ite (enterFlagged_edits _ _ _ _) ?_
  exact .ite (takeFlagOff_edits _ _ _) (.refuse _ _)

theorem takeExtension_edits (place : Nat) : Yields (Edits s) (takeExtension s place x) := by
  refine .ite (.ok (.stage s _)) ?_
  refine .ite (.ok (.enter s place (by trivial) _)) ?_
  refine .ite (.ok (.stage s _)) ?_
  refine .ite (.ok (.enter s place (by trivial) _)) ?_
  refine .ite (.ok (.enter s place (by trivial) _)) ?_
  refine .ite (.ok (.stage s _)) ?_
  refine .ite (.ok (.stage s _)) ?_
  refine .ite (.ok (.enter s place (by trivial) _)) ?_
  refine .ite (.ok (.stage s _)) ?_
  exact .ite (takeFlagOn_edits _ _) (.refuse _ _)

theorem takeNamedExtension_edits (place : Nat) :
    Yields (Edits s) (takeNamedExtension s place x) := by
  refine .ite (.ok (.stage s _)) ?_
  exact .ite (.ok (.stage s _)) (.refuse _ _)

theorem takeLookbehind_edits (place : Nat) : Yields (Edits s) (takeLookbehind s place x) := by
  refine .ite (.ok ?_) (.refuse _ _)
  exact .trans (.enter s place (by trivial) _) (.none ⟨rfl, rfl, rfl, rfl, rfl⟩)

theorem finishName_edits (place : Nat) (purpose : NameUse) (name : List Char) (here : Nat) :
    Yields (Edits s) (finishName s place purpose name here) := by
  cases purpose with
  | capture =>
      refine .ite (.refuse _ _) ?_
      split
      next => exact .refuse _ _
      next => exact .ok (.trans (.capture s place) (.none ⟨rfl, rfl, rfl, rfl, rfl⟩))
  | backreference =>
      refine .ite (.refuse _ _) ?_
      split
      next => exact .refuse _ _
      next => exact .ite (.refuse _ _) (.bind fun _ => .ok (.push s trivial))
  | condition =>
      refine .ite ?_ ?_
      · split
        next => exact .refuse _ _
        next => exact .bind fun _ => .ok (.enter s place (by trivial) _)
      · split
        next => exact .refuse _ _
        next =>
          refine .ite (.refuse _ _) (.ite (.refuse _ _) (.bind fun _ => .ok ?_))
          exact .trans (.enter s place (by trivial) _) (.none ⟨rfl, rfl, rfl, rfl, rfl⟩)

theorem takeItem_edits : Yields (Edits s) (takeItem s x) := by
  refine .ite (.ok (.bar s)) ?_
  refine .ite (.ok (.leave s)) ?_
  refine .ite (.ok (.refl s)) ?_
  refine .ite (.ok (.stage s _)) ?_
  refine .ite beginEscape_edits ?_
  split
  next => exact .ok (.stage s _)
  next => exact quantify_edits _ _ _
  next => exact quantify_edits _ _ _
  next => exact quantify_edits _ _ _
  next => exact .ok (.stage s _)
  next => exact .ok (.push s trivial)
  next => exact .ok (.stage s _)
  next => exact .ok (.push s trivial)
  next => exact .ok (.push s trivial)
  next => exact .ok (.push s trivial)

/-- Ending what a lexeme does not go on with changes a pattern as every other step does. -/
theorem settle_edits : Yields (Edits s) (settle s x) := by
  unfold settle
  split
  next => exact .ite (.ok (.refl s)) (.ok (.repeated s _ _ _))
  next => exact .ite (.ok (.refl s)) (.ok (bracesAsText_edits _ _ _))
  next =>
    refine .ite (.ok (.refl s)) (.ite (finishReference_edits _ _) ?_)
    exact .bind fun _ => .ok (.push s trivial)
  next => exact .ite (.ok (.refl s)) (.bind fun _ => .bind fun _ => .ok (.stage s _))
  next => exact .ite (.ok (.refl s)) (.ok (.capture s _))
  next => exact .ok (.refl s)

theorem take_edits [Unicode.CharacterNames] : Yields (Edits s) (take s x) := by
  unfold take
  split
  next => exact takeItem_edits
  next =>
    split
    next => exact .ok (.stage s _)
    next => exact .ok (.refl s)
  next => exact .ok (.repeated s _ _ _)
  next =>
    refine .ite (finishBraces_edits _ _ _ _) ?_
    exact .ite (.ok (.stage s _)) (.ite (.ok (.stage s _)) (.ok (.stage s _)))
  next =>
    refine .bind fun outcome => ?_
    cases outcome with
    | more e => exact .ok (.stage s _)
    | value n => exact .ok (.push s trivial)
  next => exact takeInSet_edits _
  next =>
    refine .bind fun outcome => ?_
    cases outcome with
    | more e => exact .ok (.stage s _)
    | value n => exact .bind fun _ => .ok (.stage s _)
  next => exact .ok (.stage s _)
  next => exact takeExtension_edits _
  next => exact takeNamedExtension_edits _
  next => exact takeLookbehind_edits _
  next =>
    refine .ite (.ite (.refuse _ _) (finishName_edits _ _ _ _)) ?_
    exact .ok (.stage s _)
  next => exact takeInFlagsOn_edits _ _
  next => exact takeInFlagsOff_edits _ _ _ _
  next =>
    split
    next => exact .ok (.stage s _)
    next => exact .ok (.refl s)

theorem settleEnd_edits (here : Nat) : Yields (Edits s) (settleEnd s here) := by
  unfold settleEnd
  split
  next => exact .ok (.refl s)
  next => exact .ok (.stage s _)
  next => exact .ok (.repeated s _ _ _)
  next => exact .ok (bracesAsText_edits _ _ _)
  next => exact .ite (finishReference_edits _ _) (.bind fun _ => .ok (.push s trivial))
  next => exact .refuse _ _
  next => exact .bind fun _ => .refuse _ _
  next => exact .ok (.capture s _)
  next => exact .refuse _ _
  next => exact .refuse _ _
  next => exact .refuse _ _
  next => exact .ite (.refuse _ _) (.refuse _ _)
  next => exact .refuse _ _
  next => exact .refuse _ _
  next => exact .refuse _ _

theorem step_edits [Unicode.CharacterNames] : Yields (Edits s) (step s x) := by
  refine Yields.andThen settle_edits fun t ht => .bind fun _ => ?_
  exact fun u hu => ht.trans (take_edits u hu)

theorem steps_edits [Unicode.CharacterNames] (xs : List Lexeme) (s : ReaderState) :
    Yields (Edits s) (steps s xs) := by
  induction xs generalizing s with
  | nil => exact .ok (.refl s)
  | cons x xs ih =>
      refine Yields.andThen step_edits fun t ht => ?_
      exact fun u hu => ht.trans (ih t u hu)

/-- A pattern is read by steps from the state in which nothing has begun. -/
theorem readPattern_edits [Unicode.CharacterNames] (text : List Char) :
    Yields (Edits {}) (readPattern text) := by
  refine .ite (.bind fun _ => .bind fun _ => .refuse _ _) ?_
  refine Yields.andThen (steps_edits _ _) fun s hs => ?_
  refine Yields.andThen (settleEnd_edits _) fun t ht => ?_
  split
  next =>
    refine .ite (.error _) ?_
    split
    next => exact .refuse _ _
    next => exact .ok (hs.trans ht)
  next => exact .refuse _ _

end Steps

/-! ## The numbers of groups -/

section Nodes
variable {limit more : Nat} {p : Node} {nodes : List Node}

theorem Node.IsLeaf.groupsBelow (h : p.IsLeaf) : p.GroupsBelow limit := by
  unfold Node.IsLeaf at h
  split at h
  next => trivial
  next => trivial
  next => trivial
  next => trivial
  next => trivial
  next => trivial
  next => exact h.elim

theorem Node.GroupsBelow.mono (h : p.GroupsBelow limit) (hle : limit ≤ more) :
    p.GroupsBelow more := by
  induction p with
  | seq p q ihp ihq => exact ⟨ihp h.1, ihq h.2⟩
  | alt p q ihp ihq => exact ⟨ihp h.1, ihq h.2⟩
  | group index on off body ih =>
      cases index with
      | none => exact ih h
      | some index => exact ⟨⟨h.1.1, Nat.lt_of_lt_of_le h.1.2 hle⟩, ih h.2⟩
  | atomic body ih => exact ih h
  | repetition mode least most body ih => exact ih h
  | conditional index matched unmatched ihm ihu => exact ⟨ihm h.1, ihu h.2⟩
  | lookahead negated body ih => exact ih h
  | lookbehind negated width body ih => exact ih h
  | _ => trivial

theorem groupsBelow_sequence (h : ∀ p ∈ nodes, p.GroupsBelow limit) :
    (Node.sequence nodes).GroupsBelow limit := by
  induction nodes with
  | nil => trivial
  | cons p rest ih =>
      have hp := h p List.mem_cons_self
      have hrest := ih fun q hq => h q (List.mem_cons_of_mem _ hq)
      cases rest with
      | nil => exact hp
      | cons q rest => exact ⟨hp, hrest⟩

theorem groupsBelow_alternation (h : ∀ p ∈ nodes, p.GroupsBelow limit) :
    (Node.alternation nodes).GroupsBelow limit := by
  induction nodes with
  | nil => trivial
  | cons p rest ih =>
      have hp := h p List.mem_cons_self
      have hrest := ih fun q hq => h q (List.mem_cons_of_mem _ hq)
      cases rest with
      | nil => exact hp
      | cons q rest => exact ⟨hp, hrest⟩

theorem groupsBelow_ungrouped (h : p.GroupsBelow limit) : p.ungrouped.GroupsBelow limit := by
  unfold Node.ungrouped
  split
  next =>
    split
    next => exact h
    next => exact h
  next => exact h

end Nodes

def Opening.GroupsBelow (limit : Nat) : Opening → Prop
  | .plain (some index) _ _ => 0 < index ∧ index < limit
  | .unmatched _ body => body.GroupsBelow limit
  | _ => True

structure Frame.GroupsBelow (limit : Nat) (f : Frame) : Prop where
  opening : f.opening.GroupsBelow limit
  branches : ∀ p ∈ f.branches, p.GroupsBelow limit
  items : ∀ p ∈ f.items, p.GroupsBelow limit

section Frames
variable {limit more : Nat} {f : Frame} {p : Node}

theorem Frame.GroupsBelow.mono (h : f.GroupsBelow limit) (hle : limit ≤ more) :
    f.GroupsBelow more where
  opening := by
    have hopening := h.opening
    unfold Opening.GroupsBelow at hopening ⊢
    split at hopening
    next => exact ⟨hopening.1, Nat.lt_of_lt_of_le hopening.2 hle⟩
    next => exact hopening.mono hle
    next => trivial
  branches p hp := (h.branches p hp).mono hle
  items p hp := (h.items p hp).mono hle

theorem Frame.GroupsBelow.push (h : f.GroupsBelow limit) (hp : p.GroupsBelow limit) :
    (f.push p).GroupsBelow limit where
  opening := h.opening
  branches := h.branches
  items := List.forall_mem_cons.2 ⟨hp, h.items⟩

theorem Frame.GroupsBelow.branch (h : f.GroupsBelow limit) : f.branch.GroupsBelow limit :=
  groupsBelow_sequence fun p hp => h.items p (List.mem_reverse.1 hp)

theorem Frame.GroupsBelow.endBranch (h : f.GroupsBelow limit) :
    ∀ p ∈ f.branch :: f.branches, p.GroupsBelow limit :=
  List.forall_mem_cons.2 ⟨h.branch, h.branches⟩

theorem Frame.GroupsBelow.body (h : f.GroupsBelow limit) : f.body.GroupsBelow limit :=
  groupsBelow_alternation fun p hp => h.endBranch p (List.mem_reverse.1 hp)

theorem Opening.IsUnnumbered.groupsBelow {o : Opening} (h : o.IsUnnumbered) :
    o.GroupsBelow limit := by
  unfold Opening.IsUnnumbered at h
  split at h
  next => trivial
  next => trivial
  next => trivial
  next => trivial
  next => trivial
  next => exact h.elim

end Frames

/-- All groups have the numbers that have been given out. -/
def ReaderState.Numbered (s : ReaderState) : Prop :=
  ∀ f ∈ s.frame :: s.outer, f.GroupsBelow s.groups

section Numbered
variable {s t : ReaderState} {p : Node}

theorem ReaderState.Numbered.frame (h : s.Numbered) : s.frame.GroupsBelow s.groups :=
  h s.frame List.mem_cons_self

theorem ReaderState.Numbered.outer (h : s.Numbered) : ∀ f ∈ s.outer, f.GroupsBelow s.groups :=
  fun f hf => h f (List.mem_cons_of_mem _ hf)

/-- The current construct is replaced by others. -/
theorem ReaderState.Numbered.of_frame (houter : ∀ f ∈ s.outer, f.GroupsBelow s.groups)
    (hframe : s.frame.GroupsBelow s.groups) : s.Numbered :=
  List.forall_mem_cons.2 ⟨hframe, houter⟩

theorem ReaderState.Numbered.leaveInto (h : s.Numbered) (hp : p.GroupsBelow s.groups) :
    (s.leaveInto p).Numbered := by
  unfold ReaderState.leaveInto
  split
  next => exact h
  next f outer houter =>
    have hrest := h.outer
    rw [houter] at hrest
    obtain ⟨hf, houter⟩ := List.forall_mem_cons.1 hrest
    exact .of_frame houter (hf.push hp)

theorem ReaderState.Numbered.of_same (h : s.Numbered) (hsame : SameConstructs s t) :
    t.Numbered := by
  refine .of_frame ?_ ?_
  · rw [hsame.outer_eq, hsame.groups_eq]
    exact h.outer
  · rw [hsame.groups_eq]
    exact ⟨hsame.opening_eq ▸ h.frame.opening, hsame.branches_eq ▸ h.frame.branches,
      hsame.items_eq ▸ h.frame.items⟩

@[simp]
theorem widths_leaveInto (s : ReaderState) (p : Node) : (s.leaveInto p).widths = s.widths := by
  unfold ReaderState.leaveInto
  split <;> rfl

theorem ReaderState.Numbered.leave (h : s.Numbered) : s.leave.Numbered := by
  have hbody := h.frame.body
  have hopening := h.frame.opening
  unfold ReaderState.leave
  simp only
  split
  next => exact h
  next => exact h.leaveInto hbody
  next index on off heq =>
    rw [heq] at hopening
    refine (h.leaveInto (p := .group (some index) on off _) ⟨hopening, hbody⟩).of_same ?_
    -- The width of the group is noted, which gives out no number.
    refine ⟨rfl, rfl, rfl, rfl, ?_⟩
    simp only [ReaderState.groups, List.length_set, widths_leaveInto]
  next => exact h.leaveInto hbody
  next => exact h.leaveInto hbody
  next =>
    exact (h.leaveInto (p := .lookbehind _ _ _) hbody).of_same ⟨rfl, rfl, rfl, rfl, rfl⟩
  next index heq => exact h.leaveInto (p := .conditional index _ .empty) ⟨hbody, trivial⟩
  next index before heq =>
    rw [heq] at hopening
    exact h.leaveInto (p := .conditional index before _) ⟨hopening, hbody⟩

theorem ReaderState.Numbered.endBranch (h : s.Numbered) : (takeBar s).Numbered := by
  refine .of_frame h.outer ?_
  show Frame.GroupsBelow s.groups (takeBar s).frame
  unfold takeBar
  simp only
  split
  next => exact ⟨h.frame.body, h.frame.branches, nofun⟩
  next => exact ⟨h.frame.opening, h.frame.endBranch, nofun⟩
  next => exact ⟨h.frame.opening, h.frame.endBranch, nofun⟩

theorem ReaderState.Numbered.finishQuantifier (h : s.Numbered) (mode : Mode) (least : Nat)
    (most : Option Nat) : (finishQuantifier s mode least most).Numbered := by
  have hitems := h.frame.items
  unfold Pattern.finishQuantifier
  split
  next => exact h
  next item before heq =>
    rw [heq] at hitems
    obtain ⟨hitem, hbefore⟩ := List.forall_mem_cons.1 hitems
    refine .of_frame h.outer ⟨h.frame.opening, h.frame.branches, ?_⟩
    exact List.forall_mem_cons.2 ⟨groupsBelow_ungrouped hitem, hbefore⟩

/-- A group that begins takes the number that is next, which is then given out. -/
theorem ReaderState.Numbered.enterCapture (h : s.Numbered) (place : Nat) :
    (s.enterCapture place).Numbered := by
  have hgroups : (s.enterCapture place).groups = s.groups + 1 := by
    simp [ReaderState.enterCapture, ReaderState.groups]
  refine .of_frame ?_ ?_
  · rw [hgroups]
    exact fun f hf => (h f hf).mono (Nat.le_succ _)
  · rw [hgroups]
    exact ⟨⟨Nat.succ_pos _, Nat.lt_succ_self _⟩, nofun, nofun⟩

/-- No step gives a group a number that has not been given out. -/
theorem Edits.numbered (h : Edits s t) (hs : s.Numbered) : t.Numbered := by
  induction h with
  | none hsame => exact hs.of_same hsame
  | push s hp => exact .of_frame hs.outer (hs.frame.push hp.groupsBelow)
  | repeated s mode least most => exact hs.finishQuantifier mode least most
  | enter s place h verbose => exact .of_frame hs ⟨h.groupsBelow, nofun, nofun⟩
  | capture s place => exact hs.enterCapture place
  | leave s => exact hs.leave
  | bar s => exact hs.endBranch
  | trans first second ihf ihs => exact ihs (ihf hs)

theorem numbered_initial : ({} : ReaderState).Numbered := by
  intro f hf
  obtain rfl := List.mem_singleton.1 hf
  exact ⟨trivial, List.forall_mem_nil _, List.forall_mem_nil _⟩

/-- In a pattern that is read, all groups have numbers up to that of the last one. -/
theorem groupsBelow_of_readPattern [Unicode.CharacterNames] {text : List Char}
    (h : readPattern text = .ok s) : s.frame.body.GroupsBelow s.groups :=
  have hedits := readPattern_edits text s h
  (hedits.numbered numbered_initial).frame.body

end Numbered

/-! ## The items of branches -/

def Node.IsItem : Node → Prop
  | .empty => False
  | .seq _ _ => False
  | .alt _ _ => False
  | _ => True

theorem Node.IsLeaf.isItem {p : Node} (h : p.IsLeaf) : p.IsItem := by
  cases p <;> first | exact h | trivial

/-- The branches of a construct are sequences of items. -/
structure Frame.IsItemized (f : Frame) : Prop where
  branches : ∀ p ∈ f.branches, ∃ items, (∀ q ∈ items, q.IsItem) ∧ p = .sequence items
  items : ∀ p ∈ f.items, p.IsItem

theorem Frame.IsItemized.push {f : Frame} {p : Node} (h : f.IsItemized) (hp : p.IsItem) :
    (f.push p).IsItemized where
  branches := h.branches
  items := List.forall_mem_cons.2 ⟨hp, h.items⟩

theorem Frame.IsItemized.endBranch {f : Frame} (h : f.IsItemized) :
    ∀ p ∈ f.branch :: f.branches, ∃ items, (∀ q ∈ items, q.IsItem) ∧ p = .sequence items := by
  refine List.forall_mem_cons.2 ⟨⟨f.items.reverse, fun q hq => ?_, rfl⟩, h.branches⟩
  exact h.items q (List.mem_reverse.1 hq)

def ReaderState.IsItemized (s : ReaderState) : Prop :=
  ∀ f ∈ s.frame :: s.outer, f.IsItemized

section Itemized
variable {s t : ReaderState} {p : Node}

theorem ReaderState.IsItemized.of_same (h : s.IsItemized) (hsame : SameConstructs s t) :
    t.IsItemized := by
  obtain ⟨hframe, houter⟩ := List.forall_mem_cons.1 h
  refine List.forall_mem_cons.2 ⟨⟨?_, ?_⟩, by rwa [hsame.outer_eq]⟩
  · rw [hsame.branches_eq]
    exact hframe.branches
  · rw [hsame.items_eq]
    exact hframe.items

theorem ReaderState.IsItemized.leaveInto (h : s.IsItemized) (hp : p.IsItem) :
    (s.leaveInto p).IsItemized := by
  obtain ⟨-, houter⟩ := List.forall_mem_cons.1 h
  unfold ReaderState.leaveInto
  split
  next => exact h
  next f outer heq =>
    rw [heq] at houter
    obtain ⟨hf, hrest⟩ := List.forall_mem_cons.1 houter
    exact List.forall_mem_cons.2 ⟨hf.push hp, hrest⟩

theorem ReaderState.IsItemized.leave (h : s.IsItemized) : s.leave.IsItemized := by
  unfold ReaderState.leave
  simp only
  split
  next => exact h
  next => exact h.leaveInto (p := .group none _ _ _) trivial
  next => exact h.leaveInto (p := .group (some _) _ _ _) trivial
  next => exact h.leaveInto (p := .atomic _) trivial
  next => exact h.leaveInto (p := .lookahead _ _) trivial
  next => exact h.leaveInto (p := .lookbehind _ _ _) trivial
  next => exact h.leaveInto (p := .conditional _ _ _) trivial
  next => exact h.leaveInto (p := .conditional _ _ _) trivial

theorem ReaderState.IsItemized.endBranch (h : s.IsItemized) : (takeBar s).IsItemized := by
  obtain ⟨hframe, houter⟩ := List.forall_mem_cons.1 h
  refine List.forall_mem_cons.2 ⟨?_, houter⟩
  unfold takeBar
  simp only
  split
  next => exact ⟨hframe.branches, List.forall_mem_nil _⟩
  next => exact ⟨hframe.endBranch, List.forall_mem_nil _⟩
  next => exact ⟨hframe.endBranch, List.forall_mem_nil _⟩

theorem ReaderState.IsItemized.finishQuantifier (h : s.IsItemized) (mode : Mode) (least : Nat)
    (most : Option Nat) : (finishQuantifier s mode least most).IsItemized := by
  obtain ⟨hframe, houter⟩ := List.forall_mem_cons.1 h
  have hitems := hframe.items
  unfold Pattern.finishQuantifier
  split
  next => exact h
  next item before heq =>
    rw [heq] at hitems
    have hbefore := (List.forall_mem_cons.1 hitems).2
    exact List.forall_mem_cons.2
      ⟨⟨hframe.branches, List.forall_mem_cons.2 ⟨trivial, hbefore⟩⟩, houter⟩

/-- No step adds a branch that is not a sequence of items. -/
theorem Edits.isItemized (h : Edits s t) (hs : s.IsItemized) : t.IsItemized := by
  have hnew (opening : Opening) (place : Nat) (verbose : Bool) :
      Frame.IsItemized { opening, place, verbose } :=
    ⟨List.forall_mem_nil _, List.forall_mem_nil _⟩
  induction h with
  | none hsame => exact hs.of_same hsame
  | push s hp =>
      obtain ⟨hframe, houter⟩ := List.forall_mem_cons.1 hs
      exact List.forall_mem_cons.2 ⟨hframe.push hp.isItem, houter⟩
  | repeated s mode least most => exact hs.finishQuantifier mode least most
  | enter s place h verbose => exact List.forall_mem_cons.2 ⟨hnew _ _ _, hs⟩
  | capture s place => exact List.forall_mem_cons.2 ⟨hnew _ _ _, hs⟩
  | leave s => exact hs.leave
  | bar s => exact hs.endBranch
  | trans first second ihf ihs => exact ihs (ihf hs)

/-- In a pattern that is read, every branch is a sequence of items. -/
theorem isItemized_of_readPattern [Unicode.CharacterNames] {text : List Char}
    (h : readPattern text = .ok s) : s.frame.IsItemized := by
  have hedits := readPattern_edits text s h
  refine hedits.isItemized ?_ s.frame List.mem_cons_self
  intro f hf
  obtain rfl := List.mem_singleton.1 hf
  exact ⟨List.forall_mem_nil _, List.forall_mem_nil _⟩

end Itemized

end JavadocTags.Pattern
