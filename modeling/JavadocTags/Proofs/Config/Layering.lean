import JavadocTags.Config.Load
import JavadocTags.Proofs.Json.LongNumbers
import Mathlib.Data.List.Basic

/-!
# The environment laid over a configuration

A variable sets one key of one section, so a run of variables is described by what a look-up finds
afterwards: the last variable with a target decides its key, and everything without a target stays
as it was. A value with a whole number of too many digits is the only thing that breaks a run off.
-/
namespace JavadocTags.Config

variable {config result next : Table} {target : Target} {environment rest : List (String × String)}

/-! ## Targets -/

/-- A variable has a target: its name is the mark and then, in any case, the section, an underscore
and the key. -/
def Targets (variableName : String) (target : Target) : Prop :=
  ∃ rest, variableName.toList = variableMark.toList ++ rest ∧
    Unicode.lowerText rest = target.table.toList ++ '_' :: target.key.toList ∧
    '_' ∉ target.table.toList ∧ target.table ≠ "" ∧ target.key ≠ ""

theorem target?_append {variableName : String} {rest lower : List Char}
    (hname : variableName.toList = variableMark.toList ++ rest)
    (hlower : Unicode.lowerText rest = lower) :
    target? variableName =
      if (lower.takeWhile (· ≠ '_')).isEmpty || ((lower.dropWhile (· ≠ '_')).drop 1).isEmpty then
        none
      else
        some ⟨String.ofList (lower.takeWhile (· ≠ '_')),
          String.ofList ((lower.dropWhile (· ≠ '_')).drop 1)⟩ := by
  have hmark : variableMark.toList.isPrefixOf variableName.toList := by
    rw [hname]
    exact List.isPrefixOf_iff_prefix.2 (List.prefix_append _ _)
  have hrest : variableName.toList.drop variableMark.length = rest := by
    rw [hname, ← String.length_toList, List.drop_left]
  rw [target?, if_pos hmark, hrest, hlower]

theorem takeWhile_underscore {text before behind : List Char} (hbehind : behind ≠ []) :
    text.takeWhile (· ≠ '_') = before ∧ (text.dropWhile (· ≠ '_')).drop 1 = behind ↔
      text = before ++ '_' :: behind ∧ '_' ∉ before := by
  constructor
  · rintro ⟨rfl, rfl⟩
    induction text with
    | nil => exact absurd rfl hbehind
    | cons c rest ih =>
        by_cases hc : c = '_'
        · subst hc
          simp
        · rw [List.takeWhile_cons_of_pos (by simpa using hc),
            List.dropWhile_cons_of_pos (by simpa using hc)] at *
          obtain ⟨hrest, hnot⟩ := ih hbehind
          exact ⟨congrArg (c :: ·) hrest, fun h => (List.mem_cons.1 h).elim (Ne.symm hc) hnot⟩
  · rintro ⟨rfl, hnot⟩
    have hbefore : ∀ c ∈ before, decide (c ≠ '_') = true := by
      intro c hc
      exact decide_eq_true fun h => hnot (h ▸ hc)
    rw [List.takeWhile_append_of_pos hbefore, List.dropWhile_append_of_pos hbefore]
    simp

theorem target?_eq_some_iff {variableName : String} :
    target? variableName = some target ↔ Targets variableName target := by
  by_cases hmark : variableMark.toList <+: variableName.toList
  · obtain ⟨rest, hrest⟩ := hmark
    rw [target?_append hrest.symm rfl]
    constructor
    · intro h
      split at h
      next => cases h
      next hparts =>
        simp only [Bool.or_eq_true, List.isEmpty_iff, not_or] at hparts
        obtain ⟨hlower, hnot⟩ := (takeWhile_underscore hparts.2).1 ⟨rfl, rfl⟩
        cases h
        refine ⟨rest, hrest.symm, ?_⟩
        simp only [String.toList_ofList, ne_eq, ← String.toList_eq_nil_iff]
        exact ⟨hlower, hnot, hparts.1, hparts.2⟩
    · rintro ⟨rest', hname, hlower, hnot, htable, hkey⟩
      obtain rfl : rest = rest' := List.append_cancel_left (hrest.trans hname)
      rw [ne_eq, ← String.toList_eq_nil_iff] at htable hkey
      obtain ⟨hbefore, hbehind⟩ := (takeWhile_underscore hkey).2 ⟨hlower, hnot⟩
      simp only [hbefore, hbehind, List.isEmpty_iff, Bool.or_eq_true, htable, hkey, or_self,
        if_false, String.ofList_toList]
  · rw [target?, if_neg fun h => hmark (List.isPrefixOf_iff_prefix.1 h)]
    constructor
    · intro h
      cases h
    · rintro ⟨rest, hname, -⟩
      exact absurd ⟨rest, hname.symm⟩ hmark

theorem Targets.unique {variableName : String} {other : Target}
    (h : Targets variableName target) (hother : Targets variableName other) : other = target := by
  rw [← target?_eq_some_iff] at h hother
  exact Option.some.inj (hother.symm.trans h)

/-! ## Sections -/

/-- The entries of a section; one that is missing or no table has none. -/
def entriesOf (config : Table) (name : String) : Table :=
  match config.get? name with
  | some (.table entries) => entries
  | _ => []

def valueAt? (config : Table) (target : Target) : Option Value :=
  (entriesOf config target.table).get? target.key

theorem valueAt?_eq {entries : Table} (h : config.get? target.table = some (.table entries)) :
    valueAt? config target = entries.get? target.key := by
  rw [valueAt?, entriesOf, h]

/-- A section is a table. -/
def HasTable (config : Table) (name : String) : Prop :=
  ∃ entries, config.get? name = some (.table entries)

/-- Keys of a section can be set: it is a table or missing. -/
def Open (config : Table) (name : String) : Prop :=
  config.get? name = none ∨ HasTable config name

theorem accepts_iff : accepts config target = true ↔ Open config target.table := by
  rw [accepts, Open, HasTable]
  split <;> simp_all

theorem setIn_eq (h : Open config target.table) (value : Value) :
    setIn config target value =
      config.set target.table (.table ((entriesOf config target.table).set target.key value)) := by
  obtain h | ⟨entries, h⟩ := h
  · rw [setIn, entriesOf, h]
    rfl
  · rw [setIn, entriesOf, h]

theorem get?_setIn (h : Open config target.table) (value : Value) (name : String) :
    (setIn config target value).get? name =
      if name = target.table then
        some (.table ((entriesOf config target.table).set target.key value))
      else config.get? name := by
  rw [setIn_eq h, Table.get?_set]

theorem valueAt?_setIn (h : Open config target.table) (value : Value) (other : Target) :
    valueAt? (setIn config target value) other =
      if other = target then some value else valueAt? config other := by
  rw [valueAt?, valueAt?, entriesOf, get?_setIn h]
  by_cases htable : other.table = target.table
  · rw [if_pos htable, htable]
    simp only [Table.get?_set]
    grind [Target]
  · rw [if_neg htable, if_neg fun hother => htable (congrArg Target.table hother)]
    rfl

theorem hasTable_setIn (h : Open config target.table) (value : Value) (name : String) :
    HasTable (setIn config target value) name ↔ name = target.table ∨ HasTable config name := by
  rw [HasTable, get?_setIn h]
  by_cases hname : name = target.table
  · rw [if_pos hname]
    exact ⟨fun _ => .inl hname, fun _ => ⟨_, rfl⟩⟩
  · rw [if_neg hname]
    exact ⟨.inr, fun h => h.resolve_left hname⟩

theorem open_setIn (h : Open config target.table) (value : Value) (name : String) :
    Open (setIn config target value) name ↔ Open config name := by
  rw [Open, hasTable_setIn h, get?_setIn h]
  by_cases hname : name = target.table
  · subst hname
    rw [if_pos rfl]
    exact ⟨fun _ => h, fun _ => .inr (.inl rfl)⟩
  · rw [if_neg hname, or_iff_right hname]
    rfl

/-! ## Values -/

/-- A value is a JSON text with a whole number of too many digits. -/
def Overlong (raw : String) : Prop :=
  looksLikeJson raw.toList = true ∧ Json.read raw.toList = .error .integerTooLong

/-- The text begins as JSON does, and the reader of JSON meets a whole number of too many digits. -/
theorem overlong_iff {raw : String} :
    Overlong raw ↔ looksLikeJson raw.toList = true ∧
      Json.MeetsLong .value (Json.skipSpace raw.toList) := by
  rw [Overlong, Json.read_eq_integerTooLong_iff]

/-- A text that looks like JSON begins with no letter, in lowercase either. -/
theorem lowerText_ne_word {text : List Char} (h : looksLikeJson text = true) {word : String}
    (hword : word.toList.head?.any Char.isAlpha = true) :
    String.ofList (Unicode.lowerText text) ≠ word := by
  rintro rfl
  rw [String.toList_ofList] at hword
  rw [looksLikeJson, Bool.or_eq_true, beq_iff_eq, beq_iff_eq] at h
  cases text with
  | nil => exact absurd hword (by decide)
  | cons c rest =>
      simp only [List.head?_cons, Option.some.injEq] at h
      obtain rfl | rfl := h
      · exact absurd (show (some '[').any Char.isAlpha = true from hword) (by decide)
      · exact absurd (show (some '\x7b').any Char.isAlpha = true from hword) (by decide)

theorem variableValue_eq_error_iff {raw : String} {failure : Failure} :
    variableValue raw = .error failure ↔ failure = .integerTooLong ∧ Overlong raw := by
  rw [variableValue, decode, Overlong]
  by_cases hjson : looksLikeJson raw.toList = true
  · have htrue : String.ofList (Unicode.lowerText raw.toList) ≠ "true" :=
      lowerText_ne_word hjson (by decide)
    have hfalse : String.ofList (Unicode.lowerText raw.toList) ≠ "false" :=
      lowerText_ne_word hjson (by decide)
    rw [if_neg htrue, if_neg hfalse, if_pos hjson]
    cases Json.read raw.toList with
    | ok value => simp [Except.map]
    | error fault =>
        cases fault with
        | malformed => simp [Except.map]
        | integerTooLong => simp [Except.map, hjson, eq_comm (a := failure)]
  · simp only [hjson, if_false, Bool.false_eq_true, false_and, and_false, iff_false]
    split
    next => simp [Except.map]
    next => split <;> simp [Except.map]

theorem exists_variableValue_eq_ok_iff {raw : String} :
    (∃ value, variableValue raw = .ok value) ↔ ¬ Overlong raw := by
  cases h : variableValue raw with
  | ok value =>
      refine iff_of_true ⟨value, rfl⟩ fun hlong => ?_
      rw [variableValue_eq_error_iff.2 ⟨rfl, hlong⟩] at h
      cases h
  | error failure =>
      refine iff_of_false (fun ⟨_, hvalue⟩ => by cases hvalue) ?_
      exact not_not_intro (variableValue_eq_error_iff.1 h).2

/-! ## One variable -/

/-- What one variable can do: nothing, or setting the key of its target. -/
theorem of_applyVariable_eq_ok {variableName raw : String}
    (h : applyVariable config variableName raw = .ok next) :
    (next = config ∧ ∀ target, Targets variableName target → ¬ Open config target.table) ∨
      ∃ target value, Targets variableName target ∧ Open config target.table ∧
        variableValue raw = .ok value ∧ next = setIn config target value := by
  rw [applyVariable] at h
  split at h
  next hnone =>
    refine .inl ⟨(Except.ok.inj h).symm, fun target htarget => ?_⟩
    rw [target?_eq_some_iff.2 htarget] at hnone
    cases hnone
  next target hsome =>
    split at h
    next haccepts =>
      cases hvalue : variableValue raw with
      | ok value =>
          rw [hvalue] at h
          exact .inr ⟨target, value, target?_eq_some_iff.1 hsome, accepts_iff.1 haccepts, rfl,
            (Except.ok.inj h).symm⟩
      | error failure =>
          rw [hvalue] at h
          cases h
    next hrefuses =>
      refine .inl ⟨(Except.ok.inj h).symm, fun other hother => ?_⟩
      rw [target?_eq_some_iff.2 hother] at hsome
      cases hsome
      exact mt accepts_iff.2 hrefuses

theorem open_of_applyVariable_eq_ok {variableName raw : String}
    (h : applyVariable config variableName raw = .ok next) (name : String) :
    Open next name ↔ Open config name := by
  obtain ⟨rfl, -⟩ | ⟨target, value, -, hopen, -, rfl⟩ := of_applyVariable_eq_ok h
  · rfl
  · exact open_setIn hopen value name

theorem exists_applyVariable_eq_ok_iff {variableName raw : String} :
    (∃ next, applyVariable config variableName raw = .ok next) ↔
      ∀ target, Targets variableName target → Open config target.table → ¬ Overlong raw := by
  simp only [← target?_eq_some_iff, ← accepts_iff, ← exists_variableValue_eq_ok_iff]
  rw [applyVariable]
  split
  next hnone =>
    simp [hnone]
  next target hsome =>
    split
    next haccepts =>
      cases variableValue raw <;> simp [hsome, haccepts, Except.map]
    next hrefuses =>
      simp [hsome, hrefuses]

/-! ## All variables -/

def Targeted (environment : List (String × String)) (name : String) : Prop :=
  ∃ v ∈ environment, ∃ target, Targets v.1 target ∧ target.table = name

@[simp] theorem targeted_cons {v : String × String} {name : String} :
    Targeted (v :: rest) name ↔
      (∃ target, Targets v.1 target ∧ target.table = name) ∨ Targeted rest name := by
  simp only [Targeted, List.mem_cons, exists_eq_or_imp]

/-- A configuration with the variables of an environment laid over it. -/
structure Layered (config : Table) (environment : List (String × String)) (result : Table) :
    Prop where
  last_wins : ∀ before variableName raw after target,
    environment = before ++ (variableName, raw) :: after → Targets variableName target →
      (∀ v ∈ after, ¬ Targets v.1 target) → Open config target.table →
        ∃ value, variableValue raw = .ok value ∧ valueAt? result target = some value
  kept : ∀ target, (∀ v ∈ environment, ¬ Targets v.1 target) →
    valueAt? result target = valueAt? config target
  hasTable_iff : ∀ name, HasTable result name ↔
    HasTable config name ∨ config.get? name = none ∧ Targeted environment name
  closed : ∀ name, ¬ Open config name → result.get? name = config.get? name
  added : ∀ name, (result.get? name).isSome →
    (config.get? name).isSome ∨ Targeted environment name

namespace Layered

theorem nil (config : Table) : Layered config [] config where
  last_wins before _ _ _ _ hsplit := by cases before <;> cases hsplit
  kept _ _ := rfl
  hasTable_iff name := by simp [Targeted]
  closed _ _ := rfl
  added _ h := .inl h

theorem cons_of_not_open {v : String × String}
    (hclosed : ∀ target, Targets v.1 target → ¬ Open config target.table)
    (h : Layered config rest result) : Layered config (v :: rest) result where
  last_wins before variableName raw after target hsplit htarget hlast hopen := by
    cases before with
    | nil =>
        obtain ⟨rfl, rfl⟩ := List.cons.inj hsplit
        exact absurd hopen (hclosed target htarget)
    | cons first before =>
        obtain ⟨-, hrest⟩ := List.cons.inj hsplit
        exact h.last_wins before variableName raw after target hrest htarget hlast hopen
  kept target hnone := h.kept target fun w hw => hnone w (List.mem_cons_of_mem v hw)
  hasTable_iff name := by
    rw [h.hasTable_iff, targeted_cons]
    refine or_congr_right (and_congr_right fun hmissing => (or_iff_right ?_).symm)
    rintro ⟨target, htarget, rfl⟩
    exact hclosed target htarget (.inl hmissing)
  closed := h.closed
  added name hname := (h.added name hname).imp_right fun h => targeted_cons.2 (.inr h)

theorem cons_of_open {v : String × String} {value : Value} (htarget : Targets v.1 target)
    (hopen : Open config target.table) (hvalue : variableValue v.2 = .ok value)
    (h : Layered (setIn config target value) rest result) : Layered config (v :: rest) result where
  last_wins before variableName raw after other hsplit hother hlast hopenOther := by
    cases before with
    | nil =>
        obtain ⟨rfl, rfl⟩ := List.cons.inj hsplit
        obtain rfl := htarget.unique hother
        refine ⟨value, hvalue, ?_⟩
        rw [h.kept other hlast, valueAt?_setIn hopen, if_pos rfl]
    | cons first before =>
        obtain ⟨-, hrest⟩ := List.cons.inj hsplit
        exact h.last_wins before variableName raw after other hrest hother hlast
          ((open_setIn hopen value other.table).2 hopenOther)
  kept other hnone := by
    rw [h.kept other fun w hw => hnone w (List.mem_cons_of_mem v hw), valueAt?_setIn hopen,
      if_neg]
    rintro rfl
    exact hnone v List.mem_cons_self htarget
  hasTable_iff name := by
    rw [h.hasTable_iff, hasTable_setIn hopen, get?_setIn hopen, targeted_cons]
    by_cases hname : name = target.table
    · subst hname
      exact iff_of_true (.inl (.inl rfl))
        (hopen.symm.imp_right fun hmissing => ⟨hmissing, .inl ⟨target, htarget, rfl⟩⟩)
    · have hother : ¬ ∃ other, Targets v.1 other ∧ other.table = name := by
        rintro ⟨other, hv, rfl⟩
        exact hname (congrArg Target.table (htarget.unique hv))
      rw [if_neg hname, or_iff_right hname, or_iff_right hother]
  closed name hname := by
    have hne : name ≠ target.table := by
      rintro rfl
      exact hname hopen
    rw [h.closed name (mt (open_setIn hopen value name).1 hname), get?_setIn hopen, if_neg hne]
  added name hname := by
    rw [targeted_cons]
    by_cases htable : name = target.table
    · exact .inr (.inl ⟨target, htarget, htable.symm⟩)
    · have hadded := h.added name hname
      rw [get?_setIn hopen, if_neg htable] at hadded
      exact hadded.imp_right .inr

end Layered

theorem layered_of_applyEnvironment (h : applyEnvironment config environment = .ok result) :
    Layered config environment result := by
  induction environment generalizing config with
  | nil =>
      cases h
      exact .nil _
  | cons v rest ih =>
      rw [applyEnvironment, List.foldlM_cons] at h
      obtain ⟨next, hstep, hrest⟩ := exists_of_bind_eq_ok h
      obtain ⟨rfl, hclosed⟩ | ⟨target, value, htarget, hopen, hvalue, rfl⟩ :=
        of_applyVariable_eq_ok hstep
      · exact (ih hrest).cons_of_not_open hclosed
      · exact (ih hrest).cons_of_open htarget hopen hvalue

/-- An environment is applied unless a value that is to be set is too long. -/
theorem exists_applyEnvironment_eq_ok_iff :
    (∃ result, applyEnvironment config environment = .ok result) ↔
      ∀ v ∈ environment, ∀ target, Targets v.1 target → Open config target.table →
        ¬ Overlong v.2 := by
  induction environment generalizing config with
  | nil => simp [applyEnvironment, pure, Except.pure]
  | cons v rest ih =>
      rw [List.forall_mem_cons, ← exists_applyVariable_eq_ok_iff, applyEnvironment,
        List.foldlM_cons]
      constructor
      · rintro ⟨result, h⟩
        obtain ⟨next, hstep, hrest⟩ := exists_of_bind_eq_ok h
        have hall := ih.1 ⟨result, hrest⟩
        simp only [open_of_applyVariable_eq_ok hstep] at hall
        exact ⟨⟨next, hstep⟩, hall⟩
      · rintro ⟨⟨next, hstep⟩, hall⟩
        simp only [← open_of_applyVariable_eq_ok hstep] at hall
        rw [hstep]
        exact ih.2 hall

/-! ## Permuted variables -/

/-- No two variables have the same target. -/
def DistinctTargets (environment : List (String × String)) : Prop :=
  environment.Pairwise fun v w => ∀ target, Targets v.1 target → ¬ Targets w.1 target

theorem DistinctTargets.perm {permuted : List (String × String)}
    (h : DistinctTargets environment) (hperm : environment.Perm permuted) :
    DistinctTargets permuted :=
  (hperm.pairwise_iff fun hvw target hw hv => hvw target hv hw).1 h

/-- Two configurations say the same, whatever the order of their sections and keys. -/
def SameContent (a b : Table) : Prop :=
  ∀ name, a.get? name = b.get? name ∨
    ∃ entries others : Table, a.get? name = some (.table entries) ∧
      b.get? name = some (.table others) ∧ ∀ key, entries.get? key = others.get? key

namespace Layered

/-- Where targets are distinct, every variable that can be set decides its key. -/
theorem valueAt?_of_mem (h : Layered config environment result)
    (hdistinct : DistinctTargets environment) {v : String × String} (hv : v ∈ environment)
    (htarget : Targets v.1 target) (hopen : Open config target.table) :
    ∃ value, variableValue v.2 = .ok value ∧ valueAt? result target = some value := by
  obtain ⟨before, after, rfl⟩ := List.append_of_mem hv
  obtain ⟨-, hafter, -⟩ := List.pairwise_append.1 hdistinct
  exact h.last_wins before v.1 v.2 after target rfl htarget
    (fun w hw => (List.pairwise_cons.1 hafter).1 w hw target htarget) hopen

theorem get?_eq_none (h : Layered config environment result) {name : String}
    (hopen : Open config name) (hnone : ¬ HasTable result name) : result.get? name = none := by
  rw [h.hasTable_iff, not_or, not_and] at hnone
  have hmissing := hopen.resolve_right hnone.1
  rw [← Option.not_isSome_iff_eq_none]
  intro hsome
  obtain hconfig | htargeted := h.added name hsome
  · rw [hmissing] at hconfig
    cases hconfig
  · exact hnone.2 hmissing htargeted

/-- Variables with distinct targets may come in any order. -/
theorem sameContent_of_perm {permuted : List (String × String)} {other : Table}
    (h : Layered config environment result) (hother : Layered config permuted other)
    (hperm : environment.Perm permuted) (hdistinct : DistinctTargets environment) :
    SameContent result other := by
  have htargeted : ∀ name, Targeted permuted name ↔ Targeted environment name := by
    simp only [Targeted, hperm.mem_iff, implies_true]
  have hvalues : ∀ target, Open config target.table →
      valueAt? result target = valueAt? other target := by
    intro target hopen
    by_cases hset : ∃ v ∈ environment, Targets v.1 target
    · obtain ⟨v, hv, htarget⟩ := hset
      obtain ⟨value, hvalue, hresult⟩ := h.valueAt?_of_mem hdistinct hv htarget hopen
      obtain ⟨value', hvalue', hresult'⟩ :=
        hother.valueAt?_of_mem (hdistinct.perm hperm) (hperm.mem_iff.1 hv) htarget hopen
      obtain rfl := Except.ok.inj (hvalue.symm.trans hvalue')
      rw [hresult, hresult']
    · simp only [not_exists, not_and] at hset
      rw [h.kept target hset, hother.kept target fun v hv => hset v (hperm.mem_iff.2 hv)]
  intro name
  by_cases hopen : Open config name
  · have htables : HasTable other name ↔ HasTable result name := by
      rw [hother.hasTable_iff, h.hasTable_iff, htargeted]
    by_cases htable : HasTable result name
    · obtain ⟨others, hothers⟩ := htables.2 htable
      obtain ⟨entries, hentries⟩ := htable
      refine .inr ⟨entries, others, hentries, hothers, fun key => ?_⟩
      have hkey := hvalues ⟨name, key⟩ hopen
      rwa [valueAt?_eq hentries, valueAt?_eq hothers] at hkey
    · exact .inl ((h.get?_eq_none hopen htable).trans
        (hother.get?_eq_none hopen (mt htables.1 htable)).symm)
  · exact .inl ((h.closed name hopen).trans (hother.closed name hopen).symm)

end Layered

/-- The effective configuration is the defaults with the configuration of the user and then the
variables laid over them, and the order of variables with distinct targets does not matter, exactly
if no value that is to be set is a JSON text with a whole number of too many digits. -/
theorem effective_layered_iff (user : Table) (environment : List (String × String)) :
    (∃ result, effective user environment = .ok result ∧
        Layered (Table.merge defaults user) environment result ∧
        (DistinctTargets environment → ∀ permuted, environment.Perm permuted →
          ∃ other, effective user permuted = .ok other ∧ SameContent result other)) ↔
      ∀ v ∈ environment, ∀ target, Targets v.1 target →
        Open (Table.merge defaults user) target.table → ¬ Overlong v.2 := by
  constructor
  · rintro ⟨result, hresult, -⟩
    exact exists_applyEnvironment_eq_ok_iff.1 ⟨result, hresult⟩
  · intro h
    obtain ⟨result, hresult⟩ := exists_applyEnvironment_eq_ok_iff.2 h
    have hlayered := layered_of_applyEnvironment hresult
    refine ⟨result, hresult, hlayered, fun hdistinct permuted hperm => ?_⟩
    obtain ⟨other, hother⟩ := exists_applyEnvironment_eq_ok_iff.2
      fun v hv => h v (hperm.mem_iff.2 hv)
    exact ⟨other, hother,
      hlayered.sameContent_of_perm (layered_of_applyEnvironment hother) hperm hdistinct⟩

/-- Two names with one target, and the values that the section has from the defaults. -/
example :
    (effective [] [("TAGCHECK_OUTPUT_FORMAT", "json"), ("TAGCHECK_output_format", "[true]")]).map
      (valueAt? · ⟨"output", "format"⟩) = .ok (some (.list [.bool true])) := by
  rfl

/-! ## A number that is too long -/

theorem readWhole?_ones {digits : List Char} (hones : ∀ d ∈ digits, d = '1') :
    Json.readWhole? ('1' :: (digits ++ [']'])) = some ('1' :: digits, [']']) := by
  have hdigits : ∀ d ∈ '1' :: digits, Number.isDigit d = true := by
    intro d hd
    obtain rfl : d = '1' := (List.mem_cons.1 hd).elim id (hones d)
    rfl
  have htake : ('1' :: (digits ++ [']'])).takeWhile Number.isDigit = '1' :: digits := by
    rw [← List.cons_append, List.takeWhile_append_of_pos hdigits]
    exact List.append_nil _
  have hdrop : ('1' :: (digits ++ [']'])).dropWhile Number.isDigit = [']'] := by
    rw [← List.cons_append, List.dropWhile_append_of_pos hdigits]
    rfl
  simp [Json.readWhole?, htake, hdrop]

/-- A list with one whole number, a one and then as many ones as are given. -/
def listOfOnes (more : Nat) : String :=
  String.ofList ('[' :: '1' :: (List.replicate more '1' ++ [']']))

theorem overlong_listOfOnes {more : Nat} (h : Number.wholeDigitLimit ≤ more) :
    Overlong (listOfOnes more) := by
  have hwhole := readWhole?_ones fun _ => List.eq_of_mem_replicate (n := more)
  have hlong : Number.wholeDigitLimit < ('1' :: List.replicate more '1').length := by
    rw [List.length_cons, List.length_replicate]
    exact Nat.lt_succ_of_le h
  rw [overlong_iff, listOfOnes, String.toList_ofList]
  exact ⟨rfl, .list (.item (.number ⟨_, _, hwhole, rfl, rfl, hlong⟩))⟩

/-- A list with one whole number of more than 4300 digits is neither decoded nor kept as a text. -/
theorem not_layered :
    (Targets "TAGCHECK_A_B" ⟨"a", "b"⟩ ∧ Open (Table.merge defaults []) "a") ∧
      ¬ ∃ result, effective [] [("TAGCHECK_A_B", listOfOnes 4300)] = .ok result ∧
        Layered (Table.merge defaults []) [("TAGCHECK_A_B", listOfOnes 4300)] result := by
  have htarget : Targets "TAGCHECK_A_B" ⟨"a", "b"⟩ := target?_eq_some_iff.1 (by decide +kernel)
  have hopen : Open (Table.merge defaults []) "a" := .inl (by decide +kernel)
  refine ⟨⟨htarget, hopen⟩, fun ⟨result, hresult, _⟩ => ?_⟩
  exact exists_applyEnvironment_eq_ok_iff.1 ⟨result, hresult⟩ _ List.mem_cons_self _ htarget hopen
    (overlong_listOfOnes (Nat.le_refl 4300))

end JavadocTags.Config
