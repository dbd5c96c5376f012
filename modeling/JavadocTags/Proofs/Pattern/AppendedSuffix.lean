import JavadocTags.Proofs.Outcome
import JavadocTags.Proofs.Pattern.LiteralTag
import JavadocTags.Proofs.Pattern.ReaderEdits

/-!
# Reading a fragment and what is added to it

The text that a tag is completed with is glued to its fragment, and the reader does not see where
one ends and the other begins. Where the fragment is a pattern by itself, nothing is open at its
end but what the next lexeme would end as the end of the text does: a repetition, an escape or a
brace. The text added then gives two further items of the last branch. The one exception is a
comment that goes on to the end of the line: it takes the text added for a part of itself.
-/
namespace JavadocTags.Pattern

open TagPattern (suffix sourceOf)

/-! ## Lexemes -/

/-- A text without a backslash left over is cut into lexemes independently of what follows. -/
theorem lexemes_append {place : Nat} {text : List Char} (h : (lexemes place text).2 = false)
    (more : List Char) :
    lexemes place (text ++ more) =
      ((lexemes place text).1 ++ (lexemes (place + text.length) more).1,
        (lexemes (place + text.length) more).2) := by
  fun_induction lexemes place text with
  | case1 => rfl
  | case2 => cases h
  | case3 place c rest after open? heq ih =>
      have hrest := ih (by rw [heq]; exact h)
      have hplace : place + ('\\' :: c :: rest).length = place + 2 + rest.length := by
        simp only [List.length_cons]
        omega
      rw [heq] at hrest
      rw [List.cons_append, List.cons_append, lexemes, hrest, hplace]
      rfl
  | case4 place c rest hlast hpair after open? heq ih =>
      have hbackslash : c ≠ '\\' := by
        rintro rfl
        cases rest with
        | nil => exact hlast rfl rfl
        | cons d rest => exact hpair d rest rfl rfl
      have hrest := ih (by rw [heq]; exact h)
      have hplace : place + (c :: rest).length = place + 1 + rest.length := by
        simp only [List.length_cons]
        omega
      rw [heq] at hrest
      rw [List.cons_append, lexemes_cons_of_ne place hbackslash, hrest, hplace]
      rfl

@[simp] theorem steps_append [Unicode.CharacterNames] (s : ReaderState) (xs ys : List Lexeme) :
    steps s (xs ++ ys) = steps s xs >>= fun t => steps t ys :=
  List.foldlM_append

/-! ## The end of a pattern -/

/-- The end of the pattern is reached with every construct closed and every condition naming a
group. -/
structure ReaderState.IsComplete (s : ReaderState) : Prop where
  opening_eq : s.frame.opening = .whole
  compatible : (s.flags.ascii && s.flags.unicode) = false
  named : ∀ condition ∈ s.conditions, condition.1 < s.groups

theorem finish_eq_ok_iff {s t : ReaderState} {here : Nat} :
    finish s here = .ok t ↔ settleEnd s here = .ok t ∧ t.IsComplete := by
  constructor
  · intro h
    obtain ⟨u, hu, h⟩ := exists_of_bind_eq_ok h
    split at h
    next hopening =>
      split at h
      next => cases h
      next hclasses =>
        split at h
        next => cases h
        next hnone =>
          cases h
          refine ⟨hu, hopening, Bool.eq_false_iff.2 hclasses, fun condition hmem => ?_⟩
          have hnamed := List.find?_eq_none.1 hnone condition hmem
          exact Nat.lt_of_not_le fun hle => hnamed (decide_eq_true hle)
    next => cases h
  · rintro ⟨hsettle, hopening, hclasses, hnamed⟩
    simp only [finish, hsettle, bind, Except.bind, hopening, hclasses, Bool.false_eq_true, if_false]
    split
    next index _ hfound =>
      have hlt : index < t.groups := hnamed _ (List.mem_of_find?_eq_some hfound)
      have hle := List.find?_some hfound
      exact absurd (of_decide_eq_true hle) (Nat.not_le_of_lt hlt)
    next => rfl

theorem readPattern_eq_ok_iff [Unicode.CharacterNames] {text : List Char} {t : ReaderState} :
    readPattern text = .ok t ↔
      (lexemes 0 text).2 = false ∧
        ∃ s, steps {} (lexemes 0 text).1 = .ok s ∧ settleEnd s text.length = .ok t ∧
          t.IsComplete := by
  unfold readPattern
  simp only
  split
  next hopen =>
    rw [hopen]
    refine ⟨fun h => ?_, fun h => by cases h.1⟩
    obtain ⟨s, _, h⟩ := exists_of_bind_eq_ok h
    obtain ⟨_, _, h⟩ := exists_of_bind_eq_ok h
    cases h
  next hopen =>
    refine ⟨fun h => ?_, ?_⟩
    · obtain ⟨s, hs, h⟩ := exists_of_bind_eq_ok h
      exact ⟨Bool.eq_false_iff.2 hopen, s, hs, finish_eq_ok_iff.1 h⟩
    · rintro ⟨_, s, hs, hfinish⟩
      rw [hs]
      exact finish_eq_ok_iff.2 hfinish

@[simp]
theorem stage_finishQuantifier (s : ReaderState) (mode : Mode) (least : Nat) (most : Option Nat) :
    (finishQuantifier s mode least most).stage = .items := by
  unfold finishQuantifier
  split <;> rfl

theorem stage_foldl_push (written : List Char) {s : ReaderState} (h : s.stage = .items) :
    (written.foldl (fun s c => s.push (.code c.toNat)) s).stage = .items := by
  induction written generalizing s with
  | nil => exact h
  | cons c written ih => exact ih (s := s.push _) rfl

/-- At the end of the text the reader is in the middle of nothing. -/
theorem stage_of_settleEnd {s t : ReaderState} {here : Nat} (h : settleEnd s here = .ok t) :
    t.stage = .items := by
  suffices hyields : Yields (fun t => t.stage = .items) (settleEnd s here) from hyields t h
  unfold settleEnd
  split
  next hstage => exact .ok hstage
  next => exact .ok rfl
  next => exact .ok (stage_finishQuantifier s _ _ _)
  next => exact .ok (stage_foldl_push _ rfl)
  next =>
    refine .ite ?_ (.bind fun _ => .ok rfl)
    exact .ite (.refuse _ _) (.ite (.refuse _ _) (.bind fun _ => .ok rfl))
  next => exact .refuse _ _
  next => exact .bind fun _ => .refuse _ _
  next => exact .ok rfl
  next => exact .refuse _ _
  next => exact .refuse _ _
  next => exact .refuse _ _
  next => exact .ite (.refuse _ _) (.refuse _ _)
  next => exact .refuse _ _
  next => exact .refuse _ _
  next => exact .refuse _ _

@[simp] theorem Lexeme.isChar_of_escaped {x : Lexeme} (hx : x.escaped = true) (c : Char) :
    x.isChar c = false := by
  simp [Lexeme.isChar, hx]

@[simp] theorem Lexeme.isOneOf_of_escaped {x : Lexeme} (hx : x.escaped = true) (cs : List Char) :
    x.isOneOf cs = false := by
  simp [Lexeme.isOneOf, hx]

/-- An escape that follows ends what the end of the text would end, unless it stands in a
comment. -/
theorem settle_of_settleEnd {s t : ReaderState} {x : Lexeme} (hx : x.escaped = true)
    (hstage : s.stage ≠ .lineComment) (h : settleEnd s x.place = .ok t) : settle s x = .ok t := by
  have hescape (e : Escape) : continuesEscape e x = false := by simp [continuesEscape, hx]
  have hbraces (least : List Char) (comma : Bool) : continuesBraces least comma x = false := by
    simp [continuesBraces, hx]
  unfold settleEnd at h
  unfold settle
  cases hcase : s.stage with
  | items => simpa only [hcase] using h
  | lineComment => exact absurd hcase hstage
  | quantified least most => simpa [hcase, Lexeme.isOneOf_of_escaped hx] using h
  | braces place least comma most => simpa [hcase, hbraces] using h
  | escape e =>
      -- A character name in braces is not ended by an escape, but neither by the end of the text.
      have hname : e.kind ≠ .name := by
        intro hname
        simp only [hcase, hname] at h
        obtain ⟨n, hn, -⟩ := exists_of_bind_eq_ok h
        simp only [settleEscape, hname] at hn
        split at hn <;> cases hn
      simpa [hcase, hescape, hname] using h
  | setEscape t e =>
      simp only [hcase] at h
      obtain ⟨n, -, hn⟩ := exists_of_bind_eq_ok h
      cases hn
  | opening place => simpa [hcase, Lexeme.isChar_of_escaped hx] using h
  | name place purpose read =>
      simp only [hcase] at h
      split at h <;> cases h
  | _ =>
      simp only [hcase] at h
      cases h

/-! ## Reading what is added -/

def contentGroup (index : Nat) : Node :=
  .group (some index) {} {} (.seq (.repetition .greedy 0 none .any) (.anchor .lineEnd))

/-- The blanks and the group of the rest of the line come behind the last item. -/
def ReaderState.withContent (s : ReaderState) (width : Width) : ReaderState :=
  { s with
    frame := (s.frame.push blanksNode).push (contentGroup s.groups)
    widths := s.widths ++ [some width] }

theorem steps_suffix_of_items [Unicode.CharacterNames] {s : ReaderState} (hstage : s.stage = .items)
    (hopening : s.frame.opening = .whole) (place : Nat) :
    ∃ width, steps s (lexemes place suffix.toList).1 = .ok (s.withContent width) := by
  -- The group begins with an unknown width, which is noted where it ends.
  have hread : ∃ width, steps s (lexemes place suffix.toList).1 =
      .ok { s.withContent width with
        widths := (s.widths ++ [none]).set s.widths.length (some width) } := by
    obtain ⟨stage, ⟨opening, begun, verbose, branches, items⟩, outer, flags, names, widths,
      lookbehindGroups, conditions⟩ := s
    obtain rfl : stage = .items := hstage
    obtain rfl : opening = .whole := hopening
    cases verbose with
    | false => exact ⟨_, rfl⟩
    | true => exact ⟨_, rfl⟩
  obtain ⟨width, hsteps⟩ := hread
  refine ⟨width, ?_⟩
  rw [hsteps, List.set_append_right _ _ (Nat.le_refl _), Nat.sub_self]
  rfl

/-- What is added begins with an escape, which ends what is open as the end of the text does. -/
theorem steps_suffix_of_settleEnd [Unicode.CharacterNames] {s t : ReaderState} {place : Nat}
    (hstage : s.stage ≠ .lineComment) (h : settleEnd s place = .ok t)
    (hopening : t.frame.opening = .whole) :
    ∃ width, steps s (lexemes place suffix.toList).1 = .ok (t.withContent width) := by
  obtain ⟨width, hsteps⟩ := steps_suffix_of_items (stage_of_settleEnd h) hopening place
  obtain ⟨tail, hlexemes⟩ : ∃ tail, (lexemes place suffix.toList).1 = ⟨place, true, 's'⟩ :: tail :=
    ⟨_, rfl⟩
  have hsettle : settle s ⟨place, true, 's'⟩ = settle t ⟨place, true, 's'⟩ := by
    rw [settle_of_settleEnd rfl hstage h, settle, stage_of_settleEnd h]
  refine ⟨width, ?_⟩
  rw [hlexemes, steps, List.foldlM_cons] at hsteps ⊢
  rwa [step, hsettle]

/-- A comment takes what is added for a part of itself. -/
theorem steps_suffix_of_comment [Unicode.CharacterNames] {s : ReaderState}
    (hstage : s.stage = .lineComment) (place : Nat) :
    steps s (lexemes place suffix.toList).1 = .ok s := by
  obtain ⟨stage, frame, outer, flags, names, widths, lookbehindGroups, conditions⟩ := s
  obtain rfl : stage = .lineComment := hstage
  rfl

/-- Whether a text ends inside a comment that goes on to the end of its line. -/
def endsInComment [Unicode.CharacterNames] (text : List Char) : Bool :=
  match steps {} (lexemes 0 text).1 with
  | .ok s =>
      match s.stage with
      | .lineComment => true
      | _ => false
  | .error _ => false

theorem endsInComment_iff [Unicode.CharacterNames] {text : List Char} {s : ReaderState}
    (h : steps {} (lexemes 0 text).1 = .ok s) :
    endsInComment text = true ↔ s.stage = .lineComment := by
  simp only [endsInComment, h]
  cases s.stage <;> simp

@[simp] theorem groups_withContent (s : ReaderState) (width : Width) :
    (s.withContent width).groups = s.groups + 1 := by
  simp [ReaderState.withContent, ReaderState.groups]

theorem ReaderState.IsComplete.withContent {s : ReaderState} (h : s.IsComplete) (width : Width) :
    (s.withContent width).IsComplete where
  opening_eq := h.opening_eq
  compatible := h.compatible
  named condition hmem := by
    rw [groups_withContent]
    exact Nat.lt_succ_of_lt (h.named condition hmem)

/-- Reading a pattern and what is added to it is reading the pattern and then adding two items. -/
theorem readPattern_append_suffix [Unicode.CharacterNames] {text : List Char} {t : ReaderState}
    (h : readPattern text = .ok t) (hcomment : endsInComment text = false) :
    ∃ width, readPattern (text ++ suffix.toList) = .ok (t.withContent width) := by
  obtain ⟨hopen, s, hs, hsettle, hcomplete⟩ := readPattern_eq_ok_iff.1 h
  have hstage : s.stage ≠ .lineComment := by
    intro hstage
    rw [(endsInComment_iff hs).2 hstage] at hcomment
    cases hcomment
  have hlexemes := lexemes_append hopen suffix.toList
  rw [Nat.zero_add] at hlexemes
  obtain ⟨width, hsuffix⟩ := steps_suffix_of_settleEnd hstage hsettle hcomplete.opening_eq
  -- The added group is closed, so nothing is left to end at the end of the text.
  refine ⟨width, readPattern_eq_ok_iff.2 ⟨?_, t.withContent width, ?_, ?_, ?_⟩⟩
  · rw [hlexemes]
    rfl
  · rw [hlexemes, steps_append, hs]
    exact hsuffix
  · rw [settleEnd]
    simp only [ReaderState.withContent, stage_of_settleEnd hsettle]
  · exact hcomplete.withContent width

/-- Behind a comment nothing is added at all. -/
theorem readPattern_append_suffix_of_comment [Unicode.CharacterNames] {text : List Char}
    {t : ReaderState} (h : readPattern text = .ok t) (hcomment : endsInComment text = true) :
    readPattern (text ++ suffix.toList) = .ok t := by
  obtain ⟨hopen, s, hs, hsettle, hcomplete⟩ := readPattern_eq_ok_iff.1 h
  have hstage := (endsInComment_iff hs).1 hcomment
  have hlexemes := lexemes_append hopen suffix.toList
  rw [Nat.zero_add] at hlexemes
  refine readPattern_eq_ok_iff.2 ⟨?_, s, ?_, ?_, hcomplete⟩
  · rw [hlexemes]
    rfl
  · rw [hlexemes, steps_append, hs]
    exact steps_suffix_of_comment hstage text.length
  · rw [settleEnd, hstage] at hsettle ⊢
    exact hsettle

/-! ## Compiling -/

theorem fault?_alternation (flags : Flags) (nodes : List Node) :
    (Node.alternation nodes).fault? flags = nodes.findSome? (Node.fault? flags) := by
  induction nodes with
  | nil => rfl
  | cons p rest ih =>
      rw [findSome?_cons_eq_or, ← ih]
      cases rest with
      | nil => exact (Option.or_none).symm
      | cons q rest => rfl

theorem body_eq (f : Frame) :
    f.body = .alternation (f.branches.reverse ++ [.sequence f.items.reverse]) := by
  rw [Frame.body, List.reverse_cons, Frame.branch]

theorem body_push_push (f : Frame) (p q : Node) :
    ((f.push p).push q).body =
      .alternation (f.branches.reverse ++ [.sequence (f.items.reverse ++ [p, q])]) := by
  rw [body_eq]
  simp [Frame.push]

theorem compile_eq_ok_iff [Unicode.CharacterNames] {source : String} {p : Pattern} :
    compile source = .ok p ↔
      ∃ s, readPattern source.toList = .ok s ∧ s.frame.body.fault? s.flags = none ∧
        p = ⟨source, s.flags, s.groups - 1, s.frame.body⟩ := by
  constructor
  · intro h
    obtain ⟨s, hs, h⟩ := exists_of_bind_eq_ok h
    simp only at h
    split at h
    next => cases h
    next hnone => exact ⟨s, hs, hnone, (Except.ok.inj h).symm⟩
  · rintro ⟨s, hs, hnone, rfl⟩
    simp only [compile, hs, bind, Except.bind, hnone]
    rfl

/-- Sequences of items, one for each of some nodes. -/
theorem exists_map_sequence (nodes : List Node)
    (h : ∀ p ∈ nodes, ∃ items, (∀ q ∈ items, q.IsItem) ∧ p = .sequence items) :
    ∃ branches : List (List Node), (∀ branch ∈ branches, ∀ q ∈ branch, q.IsItem) ∧
      nodes = branches.map .sequence := by
  induction nodes with
  | nil => exact ⟨[], List.forall_mem_nil _, rfl⟩
  | cons p rest ih =>
      obtain ⟨⟨items, hitems, rfl⟩, hrest⟩ := List.forall_mem_cons.1 h
      obtain ⟨branches, hbranches, rfl⟩ := ih hrest
      exact ⟨items :: branches, List.forall_mem_cons.2 ⟨hitems, hbranches⟩, rfl⟩

/-- A pattern is that of a fragment with the group of the rest of the line behind its last branch:
one group more, which is the last. -/
structure HasContentGroup (fragment p : Pattern) : Prop where
  flags_eq : p.flags = fragment.flags
  groups_eq : p.groups = fragment.groups + 1
  node_eq : ∃ (branches : List (List Node)) (last : List Node),
    (∀ branch ∈ branches ++ [last], ∀ q ∈ branch, q.IsItem) ∧
      fragment.node = .alternation ((branches ++ [last]).map .sequence) ∧
      p.node = .alternation
        ((branches ++ [last ++ [blanksNode, contentGroup p.groups]]).map .sequence)

section Compile
variable {tag : String} {fragment : Pattern}

@[simp] theorem toList_sourceOf (tag : String) :
    (sourceOf tag false).toList = tag.toList ++ suffix.toList := by
  rw [sourceOf, String.toList_append]
  simp

/-- The first fault of the completed pattern is that of the fragment, or else that of the blanks,
which are a repetition. -/
theorem fault?_withContent (t : ReaderState) (width : Width) :
    (t.withContent width).frame.body.fault? t.flags =
      (t.frame.body.fault? t.flags).or
        (if t.flags.template then some (.templateRepetition "MAX_REPEAT") else none) := by
  have hadded : [blanksNode, contentGroup t.groups].findSome? (Node.fault? t.flags) =
      if t.flags.template then some (.templateRepetition "MAX_REPEAT") else none := by
    cases htemplate : t.flags.template <;>
      simp [blanksNode, contentGroup, Node.fault?, htemplate, Mode.name, Flags.within, Flags.union]
  show (((t.frame.push blanksNode).push (contentGroup t.groups)).body).fault? t.flags = _
  rw [body_push_push, body_eq, fault?_alternation, fault?_alternation, List.findSome?_append,
    List.findSome?_append, List.findSome?_singleton, List.findSome?_singleton, fault?_sequence,
    fault?_sequence, List.findSome?_append, hadded, Option.or_assoc]

/-- What has been read of a fragment gets two more items. -/
theorem compile_sourceOf [Unicode.CharacterNames] {t : ReaderState}
    (hread : readPattern tag.toList = .ok t)
    (hfault : t.frame.body.fault? t.flags = none) (hcomment : endsInComment tag.toList = false)
    (htemplate : t.flags.template = false) :
    compile (sourceOf tag false) = .ok ⟨sourceOf tag false, t.flags, t.groups,
      ((t.frame.push blanksNode).push (contentGroup t.groups)).body⟩ := by
  obtain ⟨width, hwhole⟩ := readPattern_append_suffix hread hcomment
  have hnone : (t.withContent width).frame.body.fault? t.flags = none := by
    rw [fault?_withContent, hfault, if_neg (Bool.eq_false_iff.1 htemplate)]
    rfl
  have hgroups : (t.withContent width).groups - 1 = t.groups := by
    rw [groups_withContent, Nat.add_sub_cancel]
  rw [← toList_sourceOf] at hwhole
  refine compile_eq_ok_iff.2 ⟨_, hwhole, hnone, ?_⟩
  rw [hgroups]
  rfl

/-- A fragment that is a pattern by itself is completed to one with a group more. -/
theorem compile_append_suffix [Unicode.CharacterNames] (hfragment : compile tag = .ok fragment)
    (hcomment : endsInComment tag.toList = false) (htemplate : fragment.flags.template = false) :
    ∃ p, compile (sourceOf tag false) = .ok p ∧ HasContentGroup fragment p := by
  obtain ⟨t, hread, hfault, rfl⟩ := compile_eq_ok_iff.1 hfragment
  refine ⟨_, compile_sourceOf hread hfault hcomment htemplate, rfl, rfl, ?_⟩
  have hitemized := isItemized_of_readPattern hread
  obtain ⟨branches, hbranches, heq⟩ := exists_map_sequence t.frame.branches.reverse
    fun p hp => hitemized.branches p (List.mem_reverse.1 hp)
  refine ⟨branches, t.frame.items.reverse, ?_, ?_, ?_⟩
  · refine List.forall_mem_append.2 ⟨hbranches, List.forall_mem_singleton.2 fun q hq => ?_⟩
    exact hitemized.items q (List.mem_reverse.1 hq)
  · rw [List.map_append, ← heq]
    exact body_eq _
  · rw [List.map_append, ← heq]
    exact body_push_push _ _ _

/-- A fragment that ends in a comment is all that the completed pattern consists of. -/
theorem compile_append_suffix_of_comment [Unicode.CharacterNames]
    (hfragment : compile tag = .ok fragment) (hcomment : endsInComment tag.toList = true) :
    compile (sourceOf tag false) = .ok { fragment with source := sourceOf tag false } := by
  obtain ⟨t, hread, hfault, rfl⟩ := compile_eq_ok_iff.1 hfragment
  refine compile_eq_ok_iff.2 ⟨t, ?_, hfault, rfl⟩
  rw [toList_sourceOf]
  exact readPattern_append_suffix_of_comment hread hcomment

/-- Under an option that allows no repetition the completed pattern is refused, since the blanks
are one. -/
theorem compile_append_suffix_of_template [Unicode.CharacterNames]
    (hfragment : compile tag = .ok fragment)
    (hcomment : endsInComment tag.toList = false) (htemplate : fragment.flags.template = true) :
    compile (sourceOf tag false) = .error (.fault (.templateRepetition "MAX_REPEAT") none) := by
  obtain ⟨t, hread, hfault, rfl⟩ := compile_eq_ok_iff.1 hfragment
  obtain ⟨width, hwhole⟩ := readPattern_append_suffix hread hcomment
  have hsome : (t.withContent width).frame.body.fault? t.flags =
      some (.templateRepetition "MAX_REPEAT") := by
    rw [fault?_withContent, hfault, if_pos htemplate]
    rfl
  rw [← toList_sourceOf] at hwhole
  simp only [compile, hwhole, bind, Except.bind]
  rw [show (t.withContent width).flags = t.flags from rfl, hsome]
  rfl

end Compile

end JavadocTags.Pattern
