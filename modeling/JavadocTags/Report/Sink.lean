import JavadocTags.Diagnostic

/-!
# Receivers of diagnostics

A diagnostic is handed to a receiver, if there is one, at the moment at which it is made, and it is
returned as well. A receiver is an action of any monad: it may keep state, write or fail.
-/
namespace JavadocTags

/-- What is done with a diagnostic that is emitted. -/
abbrev Sink (m : Type → Type) := Diagnostic → m Unit

namespace Report

section Emission
variable {m : Type → Type} [Monad m]

/-- Hands a diagnostic to a receiver, if there is one. -/
def tell (sink : Option (Sink m)) (d : Diagnostic) : m Unit :=
  match sink with
  | none => pure ()
  | some receive => receive d

def emit (sink : Option (Sink m)) (d : Diagnostic) : m (List Diagnostic) := do
  tell sink d
  return [d]

/-- Emits what a step emits for each item, one item after the other. -/
def emitEach {α : Type} (step : α → m (List Diagnostic)) : List α → m (List Diagnostic)
  | [] => return []
  | item :: rest => do
      let reports ← step item
      let later ← emitEach step rest
      return reports ++ later

end Emission

/-- Keeps every diagnostic, in the order in which they are emitted. -/
def collect : Sink (StateM (Array Diagnostic)) := fun d =>
  modify (·.push d)

end Report

end JavadocTags
