import JavadocTags.Failure
import Mathlib.Data.List.Basic

/-!
# Outcomes of computations and of searches

What a computation in steps gives is what its steps give; it fails by refusals alone if each of its
steps does. What a search from left to right finds is the first number with some property: if the
search goes on from the second place as it would from the first one, the first number there is one
less.
-/
namespace JavadocTags

section Failing
variable {ε α β : Type}

def RefusesOnly (result : Except Failure α) : Prop :=
  ∀ failure, result = .error failure → ∃ cause, failure = .refused cause

@[simp] theorem refusesOnly_ok (a : α) : RefusesOnly (.ok a) := by
  intro failure h
  cases h

@[simp] theorem refusesOnly_pure (a : α) : RefusesOnly (pure a) :=
  refusesOnly_ok a

@[simp] theorem ok_bind (a : α) (f : α → Except ε β) : (Except.ok a >>= f) = f a :=
  rfl

theorem exists_of_bind_eq_ok {x : Except ε α} {f : α → Except ε β} {b : β}
    (h : x >>= f = .ok b) : ∃ a, x = .ok a ∧ f a = .ok b := by
  cases x with
  | error failure => cases h
  | ok a => exact ⟨a, rfl, h⟩

theorem bind_congr_of_ok {x : Except ε α} {f g : α → Except ε β}
    (h : ∀ a, x = .ok a → f a = g a) : (x >>= f) = (x >>= g) := by
  cases x with
  | error failure => rfl
  | ok a => exact h a rfl

theorem of_bind_eq_error {x : Except ε α} {f : α → Except ε β} {failure : ε}
    (h : x >>= f = .error failure) :
    x = .error failure ∨ ∃ a, x = .ok a ∧ f a = .error failure := by
  cases x with
  | error other => exact .inl (congrArg Except.error (Except.error.inj h))
  | ok a => exact .inr ⟨a, rfl, h⟩

end Failing

section Searching
variable {holds later : Nat → Prop}

def IsFirst (holds : Nat → Prop) (n : Nat) : Prop :=
  holds n ∧ ∀ earlier < n, ¬ holds earlier

theorem isFirst_zero (h : holds 0) : IsFirst holds 0 :=
  ⟨h, nofun⟩

theorem IsFirst.succ {n : Nat} (h : IsFirst later n) (hzero : ¬ holds 0)
    (hsucc : ∀ n, holds (n + 1) ↔ later n) : IsFirst holds (n + 1) := by
  refine ⟨(hsucc n).2 h.1, fun earlier hearlier => ?_⟩
  cases earlier with
  | zero => exact hzero
  | succ earlier =>
      rw [hsucc]
      exact h.2 earlier (Nat.lt_of_succ_lt_succ hearlier)

theorem forall_not_of_succ (h : ∀ n, ¬ later n) (hzero : ¬ holds 0)
    (hsucc : ∀ n, holds (n + 1) ↔ later n) (n : Nat) : ¬ holds n := by
  cases n with
  | zero => exact hzero
  | succ n =>
      rw [hsucc]
      exact h n

end Searching

end JavadocTags
