import JavadocTags.Proofs.Config.Layering
import JavadocTags.Proofs.Config.Merging

/-!
# The effective configuration is settled

A table is settled over another one when laying it over that one changes nothing: it begins with the
keys of the other one, and each of its values is settled over the one at its key there. What was
laid over the defaults is settled over them, and setting a key of a section keeps it so, because no
value in a section of the defaults is a table that another table could be merged with.
-/
namespace JavadocTags

open Value (DistinctKeys IsTable)

namespace Table
variable {lower upper first second : Table} {key : String} {value : Value}

theorem nodup_keys_set (h : upper.keys.Nodup) (key : String) (value : Value) :
    (upper.set key value).keys.Nodup := by
  rw [keys_set]
  split
  next => exact h
  next hkey =>
    rw [← List.concat_eq_append]
    exact List.Nodup.concat hkey h

theorem nodup_keys_merge (h : lower.keys.Nodup) (upper : Table) :
    (lower.merge upper).keys.Nodup := by
  unfold merge
  induction upper generalizing lower with
  | nil => exact h
  | cons entry rest ih => exact ih (nodup_keys_set h _ _)

theorem get?_eq_none_iff : upper.get? key = none ↔ key ∉ upper.keys := by
  refine ⟨fun h hmem => ?_, get?_eq_none_of_not_mem⟩
  obtain ⟨entry, hentry, rfl⟩ := List.mem_map.1 hmem
  have hne := List.lookup_eq_none_iff.1 h entry hentry
  exact absurd hne (by simp)

theorem mem_keys_of_get? (h : upper.get? key = some value) : key ∈ upper.keys :=
  List.mem_map_of_mem (f := Prod.fst) (mem_of_get? h)

theorem eq_of_keys (hkeys : first.keys = second.keys) (hnodup : first.keys.Nodup)
    (hget : ∀ key, first.get? key = second.get? key) : first = second := by
  induction first generalizing second with
  | nil => exact (List.map_eq_nil_iff.1 hkeys.symm).symm
  | cons entry rest ih =>
      obtain ⟨key, value⟩ := entry
      cases second with
      | nil => cases hkeys
      | cons other others =>
          obtain ⟨otherKey, otherValue⟩ := other
          obtain ⟨rfl, hrest⟩ : key = otherKey ∧ keys rest = keys others := List.cons.inj hkeys
          obtain ⟨hfirst, hnodup⟩ : key ∉ keys rest ∧ (keys rest).Nodup := List.nodup_cons.1 hnodup
          have hvalue := hget key
          rw [get?_cons, get?_cons, if_pos rfl, if_pos rfl, Option.some.injEq] at hvalue
          subst hvalue
          refine congrArg (_ :: ·) (ih hrest hnodup fun other => ?_)
          by_cases hother : other = key
          · subst hother
            rw [get?_eq_none_of_not_mem hfirst, get?_eq_none_of_not_mem (hrest ▸ hfirst)]
          · have hrestGet := hget other
            rwa [get?_cons, get?_cons, if_neg hother, if_neg hother] at hrestGet

/-! ## Settled tables -/

/-- What a table is like that changes nothing when it is laid over another one. -/
structure Settled (lower upper : Table) : Prop where
  nodup : upper.keys.Nodup
  keys : lower.keys <+: upper.keys
  values : ∀ key value, upper.get? key = some value → value.over (lower.get? key) = value

namespace Settled

theorem get?_eq_none (h : Settled lower upper) (hget : upper.get? key = none) :
    lower.get? key = none :=
  get?_eq_none_iff.2 fun hmem => get?_eq_none_iff.1 hget (h.keys.subset hmem)

theorem merge_eq (h : Settled lower upper) : lower.merge upper = upper := by
  have hkeys : (lower.merge upper).keys = upper.keys := by
    obtain ⟨more, hmore⟩ := h.keys
    have hdisjoint := (List.nodup_append.1 (hmore ▸ h.nodup)).2.2
    have hknown : lower.keys.filter (· ∉ lower.keys) = [] := by simp
    have hnew : more.filter (· ∉ lower.keys) = more := by
      refine List.filter_eq_self.2 fun key hkey => ?_
      simpa using fun hmem => hdisjoint key hmem key hkey rfl
    rw [keys_merge h.nodup, ← hmore, List.filter_append, hknown, hnew, List.nil_append]
  refine eq_of_keys hkeys (hkeys ▸ h.nodup) fun key => ?_
  rw [get?_merge h.nodup]
  cases hget : upper.get? key with
  | none => exact h.get?_eq_none hget
  | some value => rw [Option.map_some, h.values key value hget, Option.some_or]

theorem set (h : Settled lower upper) (hvalue : value.over (lower.get? key) = value) :
    Settled lower (upper.set key value) where
  nodup := nodup_keys_set h.nodup key value
  keys := by
    rw [keys_set]
    split
    next => exact h.keys
    next => exact h.keys.trans (List.prefix_append _ _)
  values := by
    intro other found hfound
    rw [get?_set] at hfound
    split at hfound
    next hother =>
      subst hother
      rwa [← Option.some.inj hfound]
    next => exact h.values other found hfound

theorem keys_perm (h : Settled lower upper) {other : Table} (hperm : upper.keys.Perm other.keys) :
    upper.keys.Perm (lower.merge other).keys := by
  have hother : other.keys.Nodup := hperm.nodup_iff.1 h.nodup
  obtain ⟨more, hmore⟩ := h.keys
  have hlower : lower.keys.Nodup := (List.nodup_append.1 (hmore ▸ h.nodup)).1
  refine (List.perm_ext_iff_of_nodup h.nodup (nodup_keys_merge hlower other)).2 fun key => ?_
  have hsubset : key ∈ lower.keys → key ∈ other.keys :=
    fun hmem => hperm.subset (h.keys.subset hmem)
  rw [keys_merge hother, List.mem_append, List.mem_filter, hperm.mem_iff]
  simp only [decide_not, Bool.not_eq_true', decide_eq_false_iff_not]
  tauto

end Settled

theorem settled_of_merge_eq (hlower : lower.keys.Nodup) (h : lower.merge upper = upper) :
    Settled lower upper := by
  have hnodup : upper.keys.Nodup := h ▸ nodup_keys_merge hlower upper
  refine ⟨hnodup, ?_, fun key value hget => ?_⟩
  · have hkeys := keys_merge hnodup lower
    rw [h] at hkeys
    exact ⟨_, hkeys.symm⟩
  · have hmerged := get?_merge hnodup lower key
    rw [h, hget, Option.map_some, Option.some_or] at hmerged
    exact (Option.some.inj hmerged).symm

end Table

theorem Value.over_of_not_isTable_lower {lower : Value} (h : ¬ lower.IsTable) (upper : Value) :
    upper.over (some lower) = upper := by
  by_cases hupper : upper.IsTable
  · obtain ⟨entries, rfl⟩ := hupper
    exact table_over_of_not_isTable h entries
  · exact over_of_not_isTable hupper _

/-- What has been laid over a table is settled over it when its values are. -/
theorem Table.settled_merge_of_values {lower upper : Table}
    (hlower : (Value.table lower).DistinctKeys) (hupper : upper.keys.Nodup)
    (hvalues : ∀ entry ∈ upper, ∀ other : Value, other.DistinctKeys →
      (entry.2.over (some other)).over (some other) = entry.2.over (some other)) :
    Settled lower (lower.merge upper) := by
  have hkeys : lower.keys.Nodup := (Value.distinctKeys_table_iff.1 hlower).1
  refine ⟨nodup_keys_merge hkeys upper, ⟨_, (keys_merge hupper lower).symm⟩, ?_⟩
  intro key value hget
  rw [get?_merge hupper] at hget
  cases habove : upper.get? key with
  | none =>
      rw [habove, Option.map_none, Option.none_or] at hget
      have hself := Value.over_over value (hlower.of_get? hget) none
      rwa [Value.over_none, ← hget] at hself
  | some inner =>
      -- The value is one that has been laid over the one below at this key.
      rw [habove, Option.map_some, Option.some_or, Option.some.injEq] at hget
      subst hget
      cases hbelow : lower.get? key with
      | none => rw [Value.over_none, Value.over_none]
      | some other => exact hvalues (key, inner) (mem_of_get? habove) other (hlower.of_get? hbelow)

/-- Laying a value over another one and the result over that one again changes nothing. -/
theorem Value.over_over_lower (upper lower : Value) (hupper : upper.DistinctKeys)
    (hlower : lower.DistinctKeys) :
    (upper.over (some lower)).over (some lower) = upper.over (some lower) := by
  by_cases htable : lower.IsTable
  · obtain ⟨below, rfl⟩ := htable
    match upper with
    | .table above =>
        obtain ⟨hkeys, hentries⟩ := distinctKeys_table_iff.1 hupper
        have hvalues : ∀ entry ∈ above, ∀ other : Value, other.DistinctKeys →
            (entry.2.over (some other)).over (some other) = entry.2.over (some other) := by
          intro entry hentry other hother
          exact over_over_lower entry.2 other (hentries entry hentry) hother
        rw [over_table, over_table, (Table.settled_merge_of_values hlower hkeys hvalues).merge_eq]
    | .null | .bool _ | .int _ | .float _ | .string _ | .date _ | .time _ | .dateTime _
    | .list _ => rfl
  · rw [over_of_not_isTable_lower htable, over_of_not_isTable_lower htable]
termination_by sizeOf upper
decreasing_by
  have hlt := List.sizeOf_lt_of_mem hentry
  obtain ⟨key, value⟩ := entry
  simp only [Prod.mk.sizeOf_spec, Value.table.sizeOf_spec] at hlt ⊢
  omega

theorem Table.settled_merge {lower upper : Table} (hlower : (Value.table lower).DistinctKeys)
    (hupper : (Value.table upper).DistinctKeys) : Settled lower (lower.merge upper) := by
  obtain ⟨hkeys, hentries⟩ := Value.distinctKeys_table_iff.1 hupper
  refine settled_merge_of_values hlower hkeys fun entry hentry other hother => ?_
  exact Value.over_over_lower entry.2 other (hentries entry hentry) hother

/-! ## The order of keys -/

namespace Value

/-- Values that differ at most in the order of keys, in the tables that they hold as well. -/
inductive SameUpToOrder : Value → Value → Prop where
  | refl (value : Value) : SameUpToOrder value value
  | list {items others : List Value} (hlength : items.length = others.length)
      (hitems : ∀ pair ∈ items.zip others, SameUpToOrder pair.1 pair.2) :
      SameUpToOrder (.list items) (.list others)
  | table {entries others : Table} (hkeys : entries.keys.Perm others.keys)
      (hvalues : ∀ key value other, entries.get? key = some value →
        others.get? key = some other → SameUpToOrder value other) :
      SameUpToOrder (.table entries) (.table others)

variable {value other : Value} {lower : Option Value}

theorem SameUpToOrder.of_perm {entries others : Table} (hnodup : entries.keys.Nodup)
    (h : entries.Perm others) : SameUpToOrder (.table entries) (.table others) := by
  have hkeys : entries.keys.Perm others.keys := h.map Prod.fst
  refine .table hkeys fun key value other hvalue hother => ?_
  have hmem := h.mem_iff.1 (Table.mem_of_get? hvalue)
  rw [Table.get?_of_mem (hkeys.nodup_iff.1 hnodup) hmem] at hother
  obtain rfl := Option.some.inj hother
  exact .refl value

/-- What is the same as a settled value stays so when it is laid over what that one is settled
over. -/
theorem SameUpToOrder.over (h : SameUpToOrder value other)
    (hlower : ∀ below ∈ lower, below.DistinctKeys) (hsettled : value.over lower = value) :
    SameUpToOrder value (other.over lower) := by
  induction h generalizing lower with
  | refl value => rw [hsettled]; exact .refl value
  | list hlength hitems => exact .list hlength hitems
  | @table entries others hkeys hvalues ih =>
      cases lower with
      | none => exact .table hkeys hvalues
      | some below =>
          by_cases htable : below.IsTable
          · obtain ⟨below, rfl⟩ := htable
            have hbelow := hlower _ rfl
            rw [over_table, Value.table.injEq] at hsettled
            have hentries := Table.settled_of_merge_eq (distinctKeys_table_iff.1 hbelow).1 hsettled
            have hothers : others.keys.Nodup := hkeys.nodup_iff.1 hentries.nodup
            rw [over_table]
            refine .table (hentries.keys_perm hkeys) fun key value found hvalue hfound => ?_
            -- A key of the settled table is a key of the other one too, so what is found in the
            -- merge is the value there, laid over the one below.
            have hkey := hkeys.mem_iff.1 (Table.mem_keys_of_get? hvalue)
            obtain ⟨other, hother⟩ := Option.ne_none_iff_exists'.1
              fun hnone => Table.get?_eq_none_iff.1 hnone hkey
            rw [Table.get?_merge hothers, hother, Option.map_some, Option.some_or,
              Option.some.injEq] at hfound
            rw [← hfound]
            have hinner : ∀ inner ∈ Table.get? below key, inner.DistinctKeys :=
              fun inner hget => hbelow.of_get? hget
            exact ih key value other hvalue hother hinner (hentries.values key value hvalue)
          · rw [table_over_of_not_isTable htable]
            exact .table hkeys hvalues

end Value

/-! ## The defaults -/

namespace Config
variable {config result : Table} {environment : List (String × String)}

theorem defaults_sections {name : String} {entries : Table}
    (h : defaults.get? name = some (.table entries)) :
    entries.keys.Nodup ∧ ∀ entry ∈ entries, ¬ entry.2.IsTable := by
  have hmem := Table.mem_of_get? h
  simp only [defaults, List.mem_cons, Prod.mk.injEq, Value.table.injEq, reduceCtorEq, and_false,
    List.not_mem_nil, or_false] at hmem
  obtain ⟨-, rfl⟩ | ⟨-, rfl⟩ := hmem
  · exact ⟨by decide, by simp [defaultScan, IsTable]⟩
  · exact ⟨by decide, by simp [defaultOutput, IsTable]⟩

theorem distinctKeys_defaults : (Value.table defaults).DistinctKeys := by
  refine Value.distinctKeys_table_iff.2 ⟨by decide, fun entry hentry => ?_⟩
  by_cases htable : entry.2.IsTable
  · obtain ⟨entries, hentries⟩ := htable
    have hget : defaults.get? entry.1 = some entry.2 := Table.get?_of_mem (by decide) hentry
    rw [hentries] at hget ⊢
    obtain ⟨hkeys, hflat⟩ := defaults_sections hget
    exact Value.distinctKeys_table_iff.2
      ⟨hkeys, fun inner hinner => Value.distinctKeys_of_not_isTable (hflat inner hinner)⟩
  · exact Value.distinctKeys_of_not_isTable htable

/-- A section of a settled configuration is settled over its defaults, whatever is set in it. -/
theorem settled_setIn (h : Table.Settled defaults config) {target : Target}
    (hopen : Open config target.table) (value : Value) :
    Table.Settled defaults (setIn config target value) := by
  rw [setIn_eq hopen]
  refine h.set ?_
  cases hsection : defaults.get? target.table with
  | none => exact Value.over_none _
  | some lower =>
      by_cases htable : lower.IsTable
      · obtain ⟨below, rfl⟩ := htable
        obtain ⟨hbelow, hflat⟩ := defaults_sections hsection
        have hentries : Table.Settled below (entriesOf config target.table) := by
          obtain hmissing | ⟨entries, hentries⟩ := hopen
          · rw [h.get?_eq_none hmissing] at hsection
            cases hsection
          · have hover := h.values _ _ hentries
            rw [hsection, Value.over_table, Value.table.injEq] at hover
            rw [entriesOf, hentries]
            exact Table.settled_of_merge_eq hbelow hover
        have hvalue : value.over (Table.get? below target.key) = value := by
          cases hlower : Table.get? below target.key with
          | none => exact Value.over_none value
          | some lower =>
              exact Value.over_of_not_isTable_lower (hflat _ (Table.mem_of_get? hlower)) value
        rw [Value.over_table, (hentries.set hvalue).merge_eq]
      · exact Value.over_of_not_isTable_lower htable _

theorem settled_applyEnvironment (h : Table.Settled defaults config)
    (hresult : applyEnvironment config environment = .ok result) :
    Table.Settled defaults result := by
  induction environment generalizing config with
  | nil =>
      cases hresult
      exact h
  | cons v rest ih =>
      rw [applyEnvironment, List.foldlM_cons] at hresult
      obtain ⟨next, hstep, hrest⟩ := exists_of_bind_eq_ok hresult
      obtain ⟨rfl, -⟩ | ⟨target, value, -, hopen, -, rfl⟩ := of_applyVariable_eq_ok hstep
      · exact ih h hrest
      · exact ih (settled_setIn h hopen value) hrest

theorem settled_effective {user : Table} (huser : (Value.table user).DistinctKeys)
    (h : effective user environment = .ok config) : Table.Settled defaults config :=
  settled_applyEnvironment (Table.settled_merge distinctKeys_defaults huser) h

end Config

end JavadocTags
