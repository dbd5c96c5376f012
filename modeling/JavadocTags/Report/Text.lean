import JavadocTags.Report.Collector
import JavadocTags.Text.Lines

/-!
# The text report

One line for each diagnostic shown and, unless the report is quiet, a summary. Files that could not
be read are reported apart, on the stream for errors.
-/
namespace JavadocTags.Report

structure Output where
  out : String
  err : String
deriving DecidableEq, Repr

/-- The line that sets the summary apart. -/
def rule : String :=
  String.ofList (List.replicate 60 '─')

/-- A line of the summary, left out when there is nothing to count. -/
def countLine (before : String) (n : Nat) (after : String) : List String :=
  if n = 0 then [] else [before ++ toString n ++ after]

def errorLine (result : FileResult) : List String :=
  match result.error with
  | none => []
  | some error =>
      if error.isEmpty then [] else ["Error reading " ++ result.path ++ ": " ++ error]

def summary (showIgnored : Bool) (results : List FileResult) (ds : List Diagnostic) :
    List String :=
  [rule, "Checked " ++ toString (declarationCount results) ++ " declarations in "
    ++ toString results.length ++ " files"]
    ++ countLine "❌ " (count .error ds) " errors"
    ++ countLine "⚠️  " (count .warning ds) " warnings"
    ++ countLine "ℹ️  " (count .info ds) " info"
    ++ countLine "   (" (ds.length - (visible showIgnored ds).length) " ignored diagnostics hidden)"
    ++ (if count .error ds = 0 then ["✓ No errors"] else [])

def errorLines (results : List FileResult) : String :=
  Text.unlines (results.flatMap errorLine)

def text (showIgnored quiet : Bool) (results : List FileResult) (ds : List Diagnostic) :
    Except Failure Output := do
  let shown ← (visible showIgnored ds).mapM (·.reportLine)
  let lines := if quiet then shown else shown ++ summary showIgnored results ds
  return ⟨Text.unlines lines, errorLines results⟩

/-- The lines of the first diagnostics, up to one that has no line. -/
def linesBeforeFailure : List Diagnostic → List String
  | [] => []
  | d :: rest =>
      match d.reportLine with
      | .ok line => line :: linesBeforeFailure rest
      | .error _ => []

/-- What has been written of a text report where it is broken off. -/
def brokenText (showIgnored : Bool) (results : List FileResult) (ds : List Diagnostic) : Output :=
  ⟨Text.unlines (linesBeforeFailure (visible showIgnored ds)), errorLines results⟩

end JavadocTags.Report
