import JavadocTags.Diagnostic

/-!
# Collected diagnostics

What a run has found: the diagnostics in the order in which they were reported, and a result for
each file.
-/
namespace JavadocTags

/-- The outcome of checking one file. A file that cannot be read has an error instead. -/
structure FileResult where
  path : String
  declarations : Int := 0
  diagnostics : List Diagnostic := []
  error : Option String := none
deriving Repr

namespace Report

def withSeverity (severity : Severity) (ds : List Diagnostic) : List Diagnostic :=
  ds.filter (·.severity = severity)

def count (severity : Severity) (ds : List Diagnostic) : Nat :=
  ds.countP (·.severity = severity)

/-- The number of diagnostics of each severity. -/
def counts (ds : List Diagnostic) : Table :=
  Severity.all.map fun severity => (severity.name, .int (count severity ds))

def hasErrors (ds : List Diagnostic) : Bool :=
  ds.any (·.severity = .error)

/-- The diagnostics that a report shows. -/
def visible (showIgnored : Bool) (ds : List Diagnostic) : List Diagnostic :=
  if showIgnored then ds else ds.filter (·.severity ≠ .ignore)

def declarationCount (results : List FileResult) : Int :=
  results.foldl (fun n result => n + result.declarations) 0

end Report

end JavadocTags
