import JavadocTags.Json.Writer
import JavadocTags.Report.Collector

/-!
# The JSON report

One document with the files, the diagnostics shown and a summary that counts all of them.
-/
namespace JavadocTags.Report

def fileRecord (result : FileResult) : Value :=
  .table [("path", .string result.path), ("declarations", .int result.declarations),
    ("error", (result.error.map .string).getD .null)]

def summaryRecord (results : List FileResult) (ds : List Diagnostic) : Value :=
  .table ([("files", .int results.length),
    ("declarations", .int (declarationCount results)),
    ("total", .int ds.length)] ++ counts ds
    ++ [("passed", .bool (count .error ds == 0))])

/-- The document of a report, given the records of the diagnostics shown. -/
def document (results : List FileResult) (ds : List Diagnostic) (shown : List Value) : Value :=
  .table [("files", .list (results.map fileRecord)), ("diagnostics", .list shown),
    ("summary", summaryRecord results ds)]

/-- The JSON report. It cannot be written when a diagnostic lacks an argument of its message or
when a check is named by a number of too many digits, by a date or by a time. -/
def json (showIgnored : Bool) (results : List FileResult) (ds : List Diagnostic) :
    Except Failure String := do
  let shown ← (visible showIgnored ds).mapM (·.record)
  if (visible showIgnored ds).any (·.check.isOverlong) then throw .integerTooLong
  else
    match Json.write? Json.Layout.indented (document results ds shown) with
    | none => throw .noJsonForm
    | some text => return text ++ "\n"

end JavadocTags.Report
