import JavadocTags.Text.Lines
import JavadocTags.Toml.Format

/-!
# Answers

A program run is answered by an exit status and by what it writes to the two streams, also where it
breaks off with a failure instead of a status.
-/
namespace JavadocTags.CommandLine

/-- Where a program runs: the file tree, the working directory, the variables of the environment,
and how TOML is read and written there. -/
structure Surroundings where
  tree : FileTree
  cwd : Location
  environment : List (String × String)
  toml : Toml.Format

/-- The exit status of a program, or the failure with which it broke off, and its output. -/
structure Answer where
  status : Except Failure Nat
  out : String := ""
  err : String := ""

namespace Answer

/-- The status of a run that found nothing wrong. -/
def success : Nat := 0

/-- The status of a run that found errors, or not what it was asked for. -/
def negative : Nat := 1

/-- The status of a run that could not be started as asked. -/
def unusable : Nat := 2

/-- An answer of one line on the stream for errors. -/
def complaint (status : Nat) (line : String) : Answer :=
  { status := .ok status, err := line ++ "\n" }

/-- The answer to a failure: a refused configuration is reported after `heading`, anything else
breaks the run off. -/
def ofFailure (heading : String) : Failure → Answer
  | .refused cause => complaint unusable (heading ++ cause.message)
  | failure => { status := .error failure }

def afterRecords (answer : Answer) (verbose : Bool) (records : List LogRecord) : Answer :=
  { answer with err := Text.unlines (LogRecord.shownLines verbose records) ++ answer.err }

end Answer

end JavadocTags.CommandLine
