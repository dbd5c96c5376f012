import JavadocTags.Check.Run
import JavadocTags.CommandLine.Answer
import JavadocTags.CommandLine.Request
import JavadocTags.Config.Load
import JavadocTags.Report.Record
import JavadocTags.Report.Text

/-!
# Checking files on request

The configuration is loaded and validated before any file is looked at. A check given by options
replaces those of the configuration, and paths given as operands replace its paths. The exit status
tells whether an error was found, however the report is written.
-/
namespace JavadocTags.CommandLine

/-- The configuration file that holds: the one named, or the nearest one. -/
def configFile? (options : GeneralOptions) (s : Surroundings) : Option Path :=
  options.config.or (Config.find? s.tree s.cwd)

/-- Loads the configuration; a file that is named has to exist. -/
def loadConfig (options : GeneralOptions) (s : Surroundings) : Config.Loaded :=
  match options.config with
  | some path =>
      if s.tree.exists s.cwd path then Config.load s.toml s.tree s.cwd s.environment (some path)
      else ⟨[], .error (.notFound path)⟩
  | none => Config.load s.toml s.tree s.cwd s.environment (Config.find? s.tree s.cwd)

/-- The answer when the configuration is not loaded. -/
def answerLoadFault : Config.LoadFault → Answer
  | .notFound path =>
      .complaint Answer.unusable ("Error: Config file not found: " ++ path.toText)
  | .unreadable path fault =>
      .complaint Answer.unusable ("Error loading config: " ++ fault.message path)
  | .failed failure => .ofFailure "Error loading config: " failure

def withConfig (options : GeneralOptions) (s : Surroundings) (answer : Table → Answer) : Answer :=
  let loaded := loadConfig options s
  let final :=
    match loaded.outcome with
    | .error fault => answerLoadFault fault
    | .ok config => answer config
  final.afterRecords options.verbose loaded.records

def inputOfOptions (options : CheckOptions) (tag : String) : SpecInput :=
  { tag := .string tag
    format := (options.tagFormat.map .string).getD .null
    tagSeverity := .string options.tagSeverity
    severity := .string options.severity
    tokens :=
      match options.tokens with
      | none => .null
      | some text => if text.isEmpty then .null else TagSpec.splitTokens (.string text)
    literal := .bool options.literal }

/-- The checks to run: the one that the options describe, or those of the configuration. -/
def checksFor [Unicode.CharacterNames] (options : CheckOptions) (config : Table) : Except Failure
    (List TagSpec) :=
  match options.tag with
  | none => Config.checks config
  | some tag => do
      let spec ← TagSpec.ofInput (inputOfOptions options tag)
      return [spec]

structure Plan where
  specs : List TagSpec
  paths : List Path
  filter : FileFilter
  format : Config.ReportFormat
  showIgnored : Bool

def planFor [Unicode.CharacterNames] (options : CheckOptions) (config : Table) :
    Except Failure Plan := do
  let specs ← checksFor options config
  let scan ← Config.scanSettings config
  let output ← Config.outputSettings config
  return {
    specs
    paths := if options.paths.isEmpty then scan.paths.map Path.ofText else options.paths
    filter := ⟨scan.includes, scan.excludes⟩
    format := options.format.getD output.format
    showIgnored := options.showIgnored || output.showIgnored }

def checkPart : String := "tagcheck.commands.check"

def planRecords (plan : Plan) (s : Surroundings) (files : List FoundFile) : List LogRecord :=
  (s.tree.missing s.cwd plan.paths).map (fun path =>
      ⟨.warning, checkPart, "Skipping " ++ path.toText ++ ": no such file or directory"⟩)
    ++ [⟨.debug, checkPart, "Checking " ++ toString files.length ++ " files with "
      ++ toString plan.specs.length ++ " checks"⟩]

/-- The report on files, which is the answer apart from its status. -/
def reportOn (plan : Plan) (quiet : Bool) (results : List FileResult)
    (diagnostics : List Diagnostic) : Except Failure Report.Output :=
  match plan.format with
  | .json => do
      let out ← Report.json plan.showIgnored results diagnostics
      return ⟨out, ""⟩
  | .text => Report.text plan.showIgnored quiet results diagnostics

/-- What has been written of a report where it is broken off; a JSON report is written at once. -/
def brokenReport (plan : Plan) (results : List FileResult) (diagnostics : List Diagnostic) :
    Report.Output :=
  match plan.format with
  | .json => ⟨"", ""⟩
  | .text => Report.brokenText plan.showIgnored results diagnostics

def statusOf (diagnostics : List Diagnostic) : Nat :=
  if Report.hasErrors diagnostics then Answer.negative else Answer.success

def runPlan (plan : Plan) (options : GeneralOptions) (s : Surroundings) : Answer :=
  let files := s.tree.collect s.cwd plan.filter plan.paths
  let (results, collected) :=
    Id.run ((checkFilesInto plan.specs s.tree s.cwd files (some Report.collect)).run #[])
  let records := planRecords plan s files
    ++ files.flatMap fun file => fileRecords plan.specs s.tree s.cwd file.path
  let final : Answer :=
    match reportOn plan options.quiet results collected.toList with
    | .error failure =>
        let written := brokenReport plan results collected.toList
        { status := .error failure, out := written.out, err := written.err }
    | .ok output =>
        let status := statusOf collected.toList
        { status := .ok status, out := output.out, err := output.err }
  final.afterRecords options.verbose records

def answerCheck [Unicode.CharacterNames] (options : GeneralOptions) (check : CheckOptions)
    (s : Surroundings) : Answer :=
  withConfig options s fun config =>
    match planFor check config with
    | .error failure => .ofFailure "Error: " failure
    | .ok plan =>
        if plan.specs.isEmpty then
          .complaint Answer.unusable
            "Error: No checks configured. Pass --tag or run 'tagcheck init'."
        else runPlan plan options s

end JavadocTags.CommandLine
