import JavadocTags.Config.Merge
import Mathlib.Data.List.Basic
import Mathlib.Data.List.Nodup

/-!
# What a merged configuration holds at a path

A path of keys leads from a table through the tables below it. Laying a table over another one is
described by what every path leads to afterwards: the value above where there is one, two tables
merged, and the value below where nothing above stands in the way. Keys are distinct in the table
above; this is what lets a look-up there find the entry that was laid over last.
-/
namespace JavadocTags

namespace Value

def at? : Value → List String → Option Value
  | value, [] => some value
  | .table entries, key :: path => (Table.get? entries key).bind fun value => value.at? path
  | _, _ :: _ => none

/-- A value is a table. -/
def IsTable (value : Value) : Prop :=
  ∃ entries, value = .table entries

/-- In no table that a path leads to does a key occur twice. -/
def DistinctKeys (value : Value) : Prop :=
  ∀ path entries, value.at? path = some (.table entries) → (Table.keys entries).Nodup

@[simp] theorem at?_nil (value : Value) : value.at? [] = some value := by
  rw [at?]

@[simp] theorem at?_table_cons (entries : Table) (key : String) (path : List String) :
    (Value.table entries).at? (key :: path) =
      (entries.get? key).bind fun value => value.at? path := by
  rw [at?]

theorem at?_cons_of_not_isTable {value : Value} (h : ¬ value.IsTable) (key : String)
    (path : List String) : value.at? (key :: path) = none := by
  cases value with
  | table entries => exact absurd ⟨entries, rfl⟩ h
  | _ => rfl

@[simp] theorem at?_append (value : Value) (path more : List String) :
    value.at? (path ++ more) = (value.at? path).bind fun inner => inner.at? more := by
  induction path generalizing value with
  | nil => rw [List.nil_append, at?_nil, Option.bind_some]
  | cons key path ih =>
      by_cases htable : value.IsTable
      · obtain ⟨entries, rfl⟩ := htable
        rw [List.cons_append, at?_table_cons, at?_table_cons, Option.bind_assoc]
        exact Option.bind_congr fun inner _ => ih inner
      · rw [List.cons_append, at?_cons_of_not_isTable htable, at?_cons_of_not_isTable htable,
          Option.bind_none]

end Value

open Value (IsTable DistinctKeys)

namespace Table

theorem set_eq_self {table : Table} {key : String} {value : Value}
    (h : table.get? key = some value) : table.set key value = table := by
  induction table with
  | nil => cases h
  | cons entry rest ih =>
      obtain ⟨k, v⟩ := entry
      rw [get?_cons] at h
      rw [set]
      split at h
      next hkey => rw [if_pos hkey.symm, Option.some.inj h]
      next hkey => rw [if_neg (Ne.symm hkey), ih h]

theorem get?_eq_none_of_not_mem {table : Table} {key : String} (h : key ∉ table.keys) :
    table.get? key = none := by
  induction table with
  | nil => rfl
  | cons entry rest ih =>
      obtain ⟨k, v⟩ := entry
      obtain ⟨hfirst, hrest⟩ := not_or.1 (mt List.mem_cons.2 h)
      rw [get?_cons, if_neg hfirst, ih hrest]

theorem get?_of_mem {table : Table} (hkeys : table.keys.Nodup) {key : String} {value : Value}
    (h : (key, value) ∈ table) : table.get? key = some value := by
  induction table with
  | nil => cases h
  | cons entry rest ih =>
      obtain ⟨k, v⟩ := entry
      obtain ⟨hfirst, hrest⟩ := List.nodup_cons.1 hkeys
      rw [get?_cons]
      rcases List.mem_cons.1 h with heq | hmem
      · obtain ⟨rfl, rfl⟩ := Prod.mk.inj heq
        exact if_pos rfl
      · rw [if_neg]
        · exact ih hrest hmem
        · intro hkey
          have hknown : key ∈ keys rest := List.mem_map_of_mem (f := Prod.fst) hmem
          exact hfirst (hkey ▸ hknown)

theorem mem_of_get? {table : Table} {key : String} {value : Value}
    (h : table.get? key = some value) : (key, value) ∈ table := by
  induction table with
  | nil => cases h
  | cons entry rest ih =>
      obtain ⟨k, v⟩ := entry
      rw [get?_cons] at h
      split at h
      next hkey =>
        obtain rfl := Option.some.inj h
        exact hkey ▸ List.mem_cons_self
      next => exact List.mem_cons_of_mem _ (ih h)

@[simp] theorem keys_set (table : Table) (key : String) (value : Value) :
    (table.set key value).keys =
      if key ∈ table.keys then table.keys else table.keys ++ [key] := by
  induction table with
  | nil => rfl
  | cons entry rest ih =>
      obtain ⟨k, v⟩ := entry
      rw [set]
      by_cases hkey : k = key
      · subst hkey
        rw [if_pos rfl]
        exact (if_pos List.mem_cons_self).symm
      · rw [if_neg hkey]
        show k :: keys (set key value rest) =
          if key ∈ k :: keys rest then k :: keys rest else k :: (keys rest ++ [key])
        rw [ih]
        simp only [List.mem_cons, Ne.symm hkey, false_or]
        split <;> rfl

end Table

/-! ## One table over another one -/

@[simp] theorem Value.over_none (value : Value) : value.over none = value := by
  cases value <;> rfl

theorem Value.over_of_not_isTable {value : Value} (h : ¬ value.IsTable) (lower : Option Value) :
    value.over lower = value := by
  cases value with
  | table entries => exact absurd ⟨entries, rfl⟩ h
  | _ => rfl

@[simp] theorem Value.over_table (lower upper : Table) :
    (Value.table upper).over (some (.table lower)) = .table (lower.merge upper) := by
  rw [Value.over, Table.merge]

theorem Value.table_over_of_not_isTable {lower : Value} (h : ¬ lower.IsTable) (upper : Table) :
    (Value.table upper).over (some lower) = .table upper := by
  cases lower with
  | table entries => exact absurd ⟨entries, rfl⟩ h
  | _ => rfl

namespace Table
variable {lower upper : Table}

/-- A key leads to its entry above, laid over the one below, or to the one below. -/
theorem get?_merge (hkeys : upper.keys.Nodup) (lower : Table) (key : String) :
    (lower.merge upper).get? key =
      ((upper.get? key).map fun value => value.over (lower.get? key)).or (lower.get? key) := by
  unfold merge
  induction upper generalizing lower with
  | nil => rfl
  | cons entry rest ih =>
      obtain ⟨k, v⟩ := entry
      obtain ⟨hfirst, hrest⟩ := List.nodup_cons.1 hkeys
      rw [mergeEntries, ih hrest, get?_set, get?_cons]
      by_cases hkey : key = k
      · -- No later entry has this key, so the first one is what stays.
        subst hkey
        rw [if_pos rfl, if_pos rfl, get?_eq_none_of_not_mem hfirst]
        rfl
      · rw [if_neg hkey, if_neg hkey]

/-- The keys below keep their order, and new keys follow in the order above. -/
theorem keys_merge (hkeys : upper.keys.Nodup) (lower : Table) :
    (lower.merge upper).keys = lower.keys ++ upper.keys.filter (· ∉ lower.keys) := by
  unfold merge
  induction upper generalizing lower with
  | nil => exact (List.append_nil _).symm
  | cons entry rest ih =>
      obtain ⟨k, v⟩ := entry
      obtain ⟨hfirst, hrest⟩ := List.nodup_cons.1 hkeys
      have hcons : keys ((k, v) :: rest) = k :: keys rest := rfl
      rw [mergeEntries, ih hrest, keys_set, hcons]
      by_cases hknown : k ∈ lower.keys
      · rw [if_pos hknown, List.filter_cons_of_neg (by simpa using hknown)]
      · rw [if_neg hknown, List.filter_cons_of_pos (by simpa using hknown), List.append_assoc,
          List.singleton_append]
        -- `k` is a key of the table below from now on, but not one of the later entries.
        refine congrArg (lower.keys ++ k :: ·) (List.filter_congr fun key hkey => ?_)
        have hne : key ≠ k := fun h => hfirst (h ▸ hkey)
        simp [hne]

/-- Entries that change nothing where they are laid change nothing together. -/
theorem merge_eq_self (h : ∀ entry ∈ upper, ∃ value, lower.get? entry.1 = some value ∧
    entry.2.over (some value) = value) : lower.merge upper = lower := by
  unfold merge
  induction upper with
  | nil => rfl
  | cons entry rest ih =>
      obtain ⟨value, hget, hover⟩ := h entry List.mem_cons_self
      rw [mergeEntries, hget, hover, set_eq_self hget]
      exact ih fun other hother => h other (List.mem_cons_of_mem entry hother)

end Table

namespace Value

theorem distinctKeys_of_not_isTable {value : Value} (h : ¬ value.IsTable) :
    value.DistinctKeys := by
  intro path entries hpath
  cases path with
  | nil => exact absurd ⟨entries, Option.some.inj hpath⟩ h
  | cons key path =>
      rw [at?_cons_of_not_isTable h] at hpath
      cases hpath

/-- Keys are distinct in a table when its own are and those in each of its values are. -/
theorem distinctKeys_table_iff {entries : Table} :
    (Value.table entries).DistinctKeys ↔
      entries.keys.Nodup ∧ ∀ entry ∈ entries, entry.2.DistinctKeys := by
  constructor
  · intro h
    have hkeys : entries.keys.Nodup := h [] entries (at?_nil _)
    refine ⟨hkeys, fun entry hentry path inner hinner => h (entry.1 :: path) inner ?_⟩
    rw [at?_table_cons, Table.get?_of_mem hkeys hentry]
    exact hinner
  · rintro ⟨hkeys, hentries⟩ path inner hpath
    cases path with
    | nil =>
        obtain rfl : entries = inner := Value.table.inj (Option.some.inj hpath)
        exact hkeys
    | cons key path =>
        rw [at?_table_cons, Option.bind_eq_some_iff] at hpath
        obtain ⟨value, hget, hvalue⟩ := hpath
        exact hentries (key, value) (Table.mem_of_get? hget) path inner hvalue

theorem DistinctKeys.of_get? {entries : Table} (h : (Value.table entries).DistinctKeys)
    {key : String} {value : Value} (hget : entries.get? key = some value) :
    value.DistinctKeys :=
  (distinctKeys_table_iff.1 h).2 (key, value) (Table.mem_of_get? hget)

/-- Laying a value over what it has been laid over already changes nothing. -/
theorem over_over (upper : Value) (h : upper.DistinctKeys) (lower : Option Value) :
    upper.over (some (upper.over lower)) = upper.over lower := by
  match upper with
  | .table entries =>
      obtain ⟨hkeys, hvalues⟩ := distinctKeys_table_iff.1 h
      have hentries : ∀ entry ∈ entries, ∀ below : Option Value,
          entry.2.over (some (entry.2.over below)) = entry.2.over below := by
        intro entry hentry below
        exact over_over entry.2 (hvalues entry hentry) below
      have hself : Table.merge entries entries = entries := by
        refine Table.merge_eq_self fun entry hentry => ⟨entry.2, ?_, ?_⟩
        · exact Table.get?_of_mem hkeys hentry
        · simpa only [over_none] using hentries entry hentry none
      match lower with
      | none => rw [over_none, over_table, hself]
      | some below =>
          by_cases htable : below.IsTable
          · obtain ⟨belowEntries, rfl⟩ := htable
            rw [over_table, over_table]
            refine congrArg Value.table (Table.merge_eq_self fun entry hentry => ?_)
            refine ⟨entry.2.over (Table.get? belowEntries entry.1), ?_, hentries entry hentry _⟩
            rw [Table.get?_merge hkeys, Table.get?_of_mem hkeys hentry]
            rfl
          · rw [table_over_of_not_isTable htable, over_table, hself]
  | .null | .bool _ | .int _ | .float _ | .string _ | .date _ | .time _ | .dateTime _
  | .list _ => rfl
termination_by sizeOf upper
decreasing_by
  have hlt := List.sizeOf_lt_of_mem hentry
  obtain ⟨key, value⟩ := entry
  simp only [Prod.mk.sizeOf_spec, Value.table.sizeOf_spec] at hlt ⊢
  omega

/-! ## Paths -/

variable {upper : Value} {path : List String}

/-- Where a path leads to a value above, the merge holds it, laid over the one below. -/
theorem at?_over_of_some (h : upper.DistinctKeys) (lower : Option Value) {value : Value}
    (hvalue : upper.at? path = some value) :
    (upper.over lower).at? path =
      some (value.over (lower.bind fun below => below.at? path)) := by
  induction path generalizing upper lower with
  | nil =>
      rw [at?_nil, Option.some.injEq] at hvalue
      subst hvalue
      cases lower <;> rfl
  | cons key path ih =>
      by_cases hupper : upper.IsTable
      · obtain ⟨entries, rfl⟩ := hupper
        have hleads := hvalue
        rw [at?_table_cons, Option.bind_eq_some_iff] at hvalue
        obtain ⟨inner, hget, hinner⟩ := hvalue
        match lower with
        | none => rw [over_none, Option.bind_none, over_none, hleads]
        | some below =>
            rw [Option.bind_some]
            by_cases htable : below.IsTable
            · obtain ⟨belowEntries, rfl⟩ := htable
              rw [over_table, at?_table_cons, at?_table_cons,
                Table.get?_merge (distinctKeys_table_iff.1 h).1, hget]
              exact ih (h.of_get? hget) (Table.get? belowEntries key) hinner
            · rw [table_over_of_not_isTable htable, at?_cons_of_not_isTable htable, over_none,
                hleads]
      · rw [at?_cons_of_not_isTable hupper] at hvalue
        cases hvalue

/-- Where a path leads to nothing above and past tables only, the merge holds what lies below. -/
theorem at?_over_of_none (h : upper.DistinctKeys) (lower : Option Value)
    (hnone : upper.at? path = none)
    (htables : ∀ before value, before <+: path → before ≠ path →
      upper.at? before = some value → value.IsTable) :
    (upper.over lower).at? path = lower.bind fun below => below.at? path := by
  induction path generalizing upper lower with
  | nil =>
      rw [at?_nil] at hnone
      cases hnone
  | cons key path ih =>
      obtain ⟨entries, rfl⟩ : upper.IsTable :=
        htables [] upper List.nil_prefix (List.cons_ne_nil _ _).symm (at?_nil _)
      match lower with
      | none => rw [over_none, Option.bind_none, hnone]
      | some below =>
          rw [Option.bind_some]
          by_cases htable : below.IsTable
          · obtain ⟨belowEntries, rfl⟩ := htable
            rw [over_table, at?_table_cons, at?_table_cons,
              Table.get?_merge (distinctKeys_table_iff.1 h).1]
            cases hget : Table.get? entries key with
            | none => rfl
            | some inner =>
                rw [at?_table_cons, hget] at hnone
                refine ih (h.of_get? hget) (Table.get? belowEntries key) hnone ?_
                intro before value hbefore hproper hvalue
                refine htables (key :: before) value (List.cons_prefix_cons.2 ⟨rfl, hbefore⟩) ?_ ?_
                · exact fun heq => hproper (List.cons.inj heq).2
                · rw [at?_table_cons, hget]
                  exact hvalue
          · rw [table_over_of_not_isTable htable, hnone, at?_cons_of_not_isTable htable]

end Value

/-- A table merged from two others, path by path. -/
structure Overlaid (lower upper merged : Table) : Prop where
  replaced : ∀ path value, (Value.table upper).at? path = some value → ¬ value.IsTable →
    (Value.table merged).at? path = some value ∧
      ∀ more, more ≠ [] → (Value.table merged).at? (path ++ more) = none
  joined : ∀ path (above below : Table), (Value.table upper).at? path = some (.table above) →
    (Value.table lower).at? path = some (.table below) →
      (Value.table merged).at? path = some (.table (below.merge above)) ∧
        (below.merge above).keys = below.keys ++ above.keys.filter (· ∉ below.keys)
  added : ∀ path above, (Value.table upper).at? path = some (.table above) →
    (∀ below, (Value.table lower).at? path ≠ some (.table below)) →
      (Value.table merged).at? path = some (.table above)
  kept : ∀ path, (Value.table upper).at? path = none →
    (∀ before value, before <+: path → before ≠ path →
      (Value.table upper).at? before = some value → value.IsTable) →
        (Value.table merged).at? path = (Value.table lower).at? path
  settled : merged.merge upper = merged

/-- At every path a merge holds what it is to hold there, and merging the same table again changes
nothing. -/
theorem overlaid_merge {upper : Table} (h : (Value.table upper).DistinctKeys) (lower : Table) :
    Overlaid lower upper (lower.merge upper) := by
  have hover : Value.table (lower.merge upper) = (Value.table upper).over (some (.table lower)) :=
    (Value.over_table lower upper).symm
  have hfound {path value} (hvalue : (Value.table upper).at? path = some value) :
      (Value.table (lower.merge upper)).at? path =
        some (value.over ((Value.table lower).at? path)) := by
    rw [hover]
    exact Value.at?_over_of_some h (some (.table lower)) hvalue
  constructor
  case replaced =>
    intro path value hvalue htable
    have hmerged := hfound hvalue
    rw [Value.over_of_not_isTable htable] at hmerged
    refine ⟨hmerged, fun more hmore => ?_⟩
    obtain ⟨key, more, rfl⟩ := List.exists_cons_of_ne_nil hmore
    rw [Value.at?_append, hmerged, Option.bind_some, Value.at?_cons_of_not_isTable htable]
  case joined =>
    intro path above below habove hbelow
    have hmerged := hfound habove
    rw [hbelow, Value.over_table] at hmerged
    exact ⟨hmerged, Table.keys_merge (h path above habove) below⟩
  case added =>
    intro path above habove hbelow
    rw [hfound habove]
    cases hlower : (Value.table lower).at? path with
    | none => rw [Value.over_none]
    | some below =>
        rw [Value.table_over_of_not_isTable]
        rintro ⟨entries, rfl⟩
        exact hbelow entries hlower
  case kept =>
    intro path hnone htables
    rw [hover]
    exact Value.at?_over_of_none h (some (.table lower)) hnone htables
  case settled =>
    have hagain := Value.over_over (.table upper) h (some (.table lower))
    rw [Value.over_table, Value.over_table] at hagain
    exact Value.table.inj hagain

def lowerSettings : Table :=
  [("scan", .table [("paths", .list [.string "."]), ("exclude", .list [])]),
    ("output", .table [("format", .string "text")]), ("quiet", .bool false)]

def upperSettings : Table :=
  [("output", .string "json"),
    ("scan", .table [("depth", .int 2), ("paths", .string "src")]),
    ("quiet", .table [("log", .bool true)])]

theorem distinctKeys_upperSettings : (Value.table upperSettings).DistinctKeys := by
  have hscalar {value : Value} (h : ¬ value.IsTable) := Value.distinctKeys_of_not_isTable h
  simp only [upperSettings, Value.distinctKeys_table_iff, List.forall_mem_cons]
  refine ⟨by decide, hscalar ?_, ⟨by decide, hscalar ?_, hscalar ?_, ?_⟩,
    ⟨by decide, hscalar ?_, ?_⟩, ?_⟩
  all_goals simp [IsTable]

theorem overlaid_merge_settings :
    (Value.table upperSettings).DistinctKeys ∧
      let merged := Value.table (lowerSettings.merge upperSettings)
      merged.at? ["scan", "paths"] = some (.string "src") ∧
      merged.at? ["scan", "exclude"] = some (.list []) ∧
      merged.at? ["output", "format"] = none ∧
      merged.at? ["quiet"] = some (.table [("log", .bool true)]) ∧
      (∃ scan : Table, merged.at? ["scan"] = some (.table scan) ∧
        scan.keys = ["paths", "exclude", "depth"]) ∧
      (lowerSettings.merge upperSettings).merge upperSettings =
        lowerSettings.merge upperSettings := by
  have hoverlaid := overlaid_merge distinctKeys_upperSettings lowerSettings
  have hscalar (s : String) : ¬ (Value.string s).IsTable := by simp [IsTable]
  have hscan := hoverlaid.joined ["scan"] _ _ rfl rfl
  refine ⟨distinctKeys_upperSettings, ?_, ?_, ?_, ?_, ?_, hoverlaid.settled⟩
  · exact (hoverlaid.replaced ["scan", "paths"] _ rfl (hscalar "src")).1
  · refine hoverlaid.kept ["scan", "exclude"] rfl ?_
    intro before value hbefore hproper hvalue
    match before with
    | [] => exact ⟨_, (Option.some.inj hvalue).symm⟩
    | [key] =>
        obtain ⟨rfl, -⟩ := List.cons_prefix_cons.1 hbefore
        exact ⟨_, (Option.some.inj hvalue).symm⟩
    | _ :: _ :: rest =>
        exact absurd (hbefore.eq_of_length_le (Nat.le_add_left 2 rest.length)) hproper
  · exact (hoverlaid.replaced ["output"] _ rfl (hscalar "json")).2 ["format"]
      (List.cons_ne_nil _ _)
  · refine hoverlaid.added ["quiet"] _ rfl ?_
    intro below hbelow
    cases hbelow
  · exact ⟨_, hscan.1, hscan.2⟩

end JavadocTags
