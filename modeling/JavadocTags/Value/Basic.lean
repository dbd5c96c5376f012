import JavadocTags.Number.Binary64

/-!
# Configuration values

The values that a configuration file, an environment variable or a report holds. A table keeps its
entries in the order in which their keys came first.
-/
namespace JavadocTags

structure Date where
  year : Nat
  month : Nat
  day : Nat
deriving DecidableEq, Repr

structure Time where
  hour : Nat
  minute : Nat
  second : Nat
  microsecond : Nat
deriving DecidableEq, Repr

/-- A date with a time of day and, unless it is local, the distance from universal time in
minutes. -/
structure DateTime where
  date : Date
  time : Time
  offset : Option Int
deriving DecidableEq, Repr

inductive Value where
  | null
  | bool (b : Bool)
  | int (n : Int)
  | float (x : Number.Binary64)
  | string (s : String)
  | date (d : Date)
  | time (t : Time)
  | dateTime (t : DateTime)
  | list (items : List Value)
  | table (entries : List (String × Value))
deriving Repr, Inhabited

/-- The entries of a table, in order; no key occurs twice. -/
abbrev Table := List (String × Value)

namespace Table

def get? (table : Table) (key : String) : Option Value :=
  table.lookup key

def has (table : Table) (key : String) : Bool :=
  (table.get? key).isSome

/-- Gives a key a value; a key that has one keeps its place, a new one comes last. -/
def set (key : String) (value : Value) : Table → Table
  | [] => [(key, value)]
  | (k, v) :: rest => if k = key then (k, value) :: rest else (k, v) :: set key value rest

@[simp] theorem get?_cons (key other : String) (value : Value) (rest : Table) :
    get? ((key, value) :: rest) other = if other = key then some value else rest.get? other := by
  rw [get?, List.lookup_cons]
  by_cases h : other = key
  · rw [if_pos h, beq_iff_eq.2 h]
  · rw [if_neg h, beq_false_of_ne h]
    rfl

@[simp] theorem get?_set (table : Table) (key other : String) (value : Value) :
    (table.set key value).get? other = if other = key then some value else table.get? other := by
  induction table with
  | nil => rw [set, get?_cons]
  | cons entry rest ih =>
      obtain ⟨k, v⟩ := entry
      rw [set, get?_cons]
      split
      next hk =>
        subst hk
        rw [get?_cons]
        split <;> rfl
      next hk =>
        rw [get?_cons, ih]
        split
        next hother => rw [if_neg (hother ▸ hk)]
        next => rfl

def keys (table : Table) : List String :=
  table.map Prod.fst

/-- The table of entries of which later ones replace earlier ones of the same key. -/
def ofEntries (entries : List (String × Value)) : Table :=
  entries.foldl (fun table entry => set entry.1 entry.2 table) []

end Table

end JavadocTags
