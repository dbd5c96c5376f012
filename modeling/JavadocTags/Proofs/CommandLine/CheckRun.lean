import Mathlib
import JavadocTags.CommandLine.Program
import JavadocTags.Proofs.Check.Emission
import JavadocTags.Proofs.Files.Reading
import JavadocTags.Proofs.Pattern.TagSearch
import JavadocTags.Proofs.Report.Writing

/-!
# A run of checks

A run reports what its checks find in the files that it collects: file by file, check by check, and
declaration by declaration. The collector and the results of the files hold the same diagnostics,
and the exit status goes by these alone, whatever is shown of them.
-/
namespace JavadocTags

namespace TagSpec
variable {spec : TagSpec} {d : Declaration} {path : String}

theorem presentable_of_mem_visit (hid : ∃ name, spec.id = .string name) {comments : CommentIndex}
    {report : Diagnostic} (h : report ∈ spec.visit d comments path) : report.Presentable := by
  obtain ⟨tag, _, rfl | ⟨comment, m, _, _, rfl⟩⟩ := of_mem_visit h
  · exact ⟨⟨_, rfl⟩, hid⟩
  · obtain ⟨key, detail, _, _, hfound⟩ := exists_found_eq spec tag d path comment.lines.length m
    rw [hfound]
    cases key with
    | missingTag | writeTag | tagFormat => exact ⟨⟨_, rfl⟩, hid⟩

end TagSpec

/-- The diagnostics of a source: check by check those of the declarations that the check runs on,
in the order of the source. -/
def reportsOn (specs : List TagSpec) (source : Java.Source) : List Diagnostic :=
  specs.flatMap fun spec =>
    (source.declarations.filter (·.kind ∈ spec.tokens)).flatMap fun d =>
      spec.visit d source.javadocBefore? source.path

theorem flatMap_checkSource (specs : List TagSpec) (source : Java.Source) :
    (specs.flatMap fun spec => spec.checkSource source) = reportsOn specs source := by
  have hcovers (spec : TagSpec) : spec.covers = fun d => decide (d.kind ∈ spec.tokens) :=
    funext fun d => List.contains_eq_mem d.kind spec.tokens
  simp only [reportsOn, TagSpec.checkSource, hcovers]

theorem presentable_of_mem_reportsOn {specs : List TagSpec} {source : Java.Source}
    (hids : ∀ spec ∈ specs, ∃ name, spec.id = .string name) {report : Diagnostic}
    (h : report ∈ reportsOn specs source) : report.Presentable := by
  obtain ⟨spec, hspec, h⟩ := List.mem_flatMap.1 h
  obtain ⟨d, _, h⟩ := List.mem_flatMap.1 h
  exact TagSpec.presentable_of_mem_visit (hids spec hspec) h

theorem checkFile_of_javaSource {specs : List TagSpec} {tree : FileTree} {cwd : Location}
    {path : Path} {source : Java.Source} (h : tree.javaSource cwd path = .ok source) :
    checkFile specs tree cwd path =
      { path := path.toText
        declarations := source.declarations.length
        diagnostics := reportsOn specs source } := by
  rw [checkFile, h, ← flatMap_checkSource]

namespace CommandLine

theorem statusOf_eq (ds : List Diagnostic) :
    statusOf ds = if ∃ d ∈ ds, d.severity = .error then 1 else 0 := by
  have herrors : Report.hasErrors ds = true ↔ ∃ d ∈ ds, d.severity = .error := by
    simp only [Report.hasErrors, List.any_eq_true, decide_eq_true_eq]
  simp only [statusOf, herrors, Answer.negative, Answer.success]

theorem exists_reportOn (plan : Plan) (quiet : Bool) (results : List FileResult)
    {ds : List Diagnostic} (h : ∀ d ∈ ds, d.Presentable) :
    ∃ report, reportOn plan quiet results ds = .ok report := by
  unfold reportOn
  split
  · obtain ⟨text, htext⟩ := Report.exists_json h plan.showIgnored results
    rw [htext]
    exact ⟨_, rfl⟩
  · obtain ⟨output, houtput⟩ := Report.exists_text h plan.showIgnored quiet results
    rw [houtput]
    exact ⟨_, rfl⟩

theorem runPlan_of_reportOn {plan : Plan} {options : GeneralOptions} {s : Surroundings}
    {results : List FileResult} {ds : List Diagnostic} {report : Report.Output}
    (hrun : Id.run ((checkFilesInto plan.specs s.tree s.cwd
      (s.tree.collect s.cwd plan.filter plan.paths) (some Report.collect)).run #[]) =
        (results, ds.toArray))
    (h : reportOn plan options.quiet results ds = .ok report) :
    (runPlan plan options s).status = .ok (statusOf ds) ∧
      (runPlan plan options s).out = report.out := by
  simp only [runPlan, hrun, h]
  exact ⟨rfl, rfl⟩

theorem answerCheck_of_planFor [Unicode.CharacterNames] {options : GeneralOptions}
    {check : CheckOptions} {s : Surroundings} {config : Table} {plan : Plan}
    (hconfig : (loadConfig options s).outcome = .ok config)
    (hplan : planFor check config = .ok plan) (hspecs : plan.specs ≠ []) :
    (answerCheck options check s).status = (runPlan plan options s).status ∧
      (answerCheck options check s).out = (runPlan plan options s).out := by
  simp only [answerCheck, withConfig, hconfig, hplan, List.isEmpty_eq_false_iff.2 hspecs]
  exact ⟨rfl, rfl⟩

/-- A run of checks reports what a visit to each declaration returns, once and in order: the
collected files one after the other, in each file the checks, and for each check the declarations
that it runs on. The result of a file holds the part of this file, the collector holds all parts,
and the status tells whether there is an error among them. -/
theorem check_run_reports_visits [Unicode.CharacterNames] {words : List String}
    {options : GeneralOptions}
    {check : CheckOptions} {s : Surroundings} {config : Table} {plan : Plan}
    (hwords : readRequest words = .run options (.check check))
    (hconfig : (loadConfig options s).outcome = .ok config)
    (hplan : planFor check config = .ok plan) (hspecs : plan.specs ≠ [])
    (hids : ∀ spec ∈ plan.specs, ∃ name, spec.id = .string name) :
    ∃ (files : List FoundFile) (sourceOf : FoundFile → Java.Source) (results : List FileResult)
      (collected : List Diagnostic) (report : Report.Output),
      files = s.tree.collect s.cwd plan.filter plan.paths ∧
      (∀ file ∈ files, s.tree.javaSource s.cwd file.path = .ok (sourceOf file)) ∧
      Id.run ((checkFilesInto plan.specs s.tree s.cwd files (some Report.collect)).run #[]) =
        (results, collected.toArray) ∧
      (results = files.map fun file =>
        { path := file.path.toText
          declarations := (sourceOf file).declarations.length
          diagnostics := reportsOn plan.specs (sourceOf file) }) ∧
      (collected = files.flatMap fun file => reportsOn plan.specs (sourceOf file)) ∧
      reportOn plan options.quiet results collected = .ok report ∧
      (run s words).1.out = report.out ∧
      (run s words).1.status = .ok (if ∃ d ∈ collected, d.severity = .error then 1 else 0) := by
  have hreadable : ∀ file ∈ s.tree.collect s.cwd plan.filter plan.paths,
      ∃ source, s.tree.javaSource s.cwd file.path = .ok source :=
    fun file hfile => FileTree.javaSource_of_mem_collect hfile
  have : Nonempty Java.Source := ⟨Java.Source.ofText "" []⟩
  choose! sourceOf hsource using hreadable
  have hrun := checkFilesInto_collect plan.specs s.tree s.cwd
    (s.tree.collect s.cwd plan.filter plan.paths)
  have hresult := fun file hfile =>
    @checkFile_of_javaSource plan.specs _ _ _ _ (hsource file hfile)
  have hresults := List.map_congr_left hresult
  rw [Report.collected, checkFiles, hresults, List.flatMap_map] at hrun
  have hpresentable : ∀ d ∈ (s.tree.collect s.cwd plan.filter plan.paths).flatMap fun file =>
      reportsOn plan.specs (sourceOf file), d.Presentable := by
    intro d hd
    obtain ⟨file, _, hd⟩ := List.mem_flatMap.1 hd
    exact presentable_of_mem_reportsOn hids hd
  obtain ⟨report, hreport⟩ := exists_reportOn plan options.quiet _ hpresentable
  obtain ⟨hstatus, hout⟩ := runPlan_of_reportOn hrun hreport
  obtain ⟨hanswer, hanswerOut⟩ := answerCheck_of_planFor hconfig hplan hspecs
  refine ⟨_, sourceOf, _, _, report, rfl, hsource, hrun, rfl, rfl, hreport, ?_, ?_⟩
  · rw [run, hwords]
    exact hanswerOut.trans hout
  · rw [run, hwords, ← statusOf_eq]
    exact hanswer.trans hstatus

open scoped Unicode.CharacterNames

def sampleText : String :=
  "[[checks]]\nid = \"a\"\ntag = \"@x\"\n[[checks]]\ntag = \"@y\"\n"

/-- A configuration file with two checks, a class with the tag of one of them, and an enumeration
without a comment. -/
def sampleTree : FileTree :=
  ⟨[([".tagcheck.toml"], .file sampleText.toUTF8.toList),
    (["src"], .directory),
    (["src", "A.java"], .file "/** @x 1 */\nclass A \x7b\x7d".toUTF8.toList),
    (["src", "B.java"], .file "enum B \x7b\x7d".toUTF8.toList)]⟩

def sampleChecks : String × Value :=
  ("checks", .list [.table [("id", .string "a"), ("tag", .string "@x")],
    .table [("tag", .string "@y")]])

def sampleConfig : Table :=
  [("scan", .table Config.defaultScan), ("output", .table Config.defaultOutput), sampleChecks]

def samplePlan : Plan :=
  let check (tag id : String) : TagSpec :=
    { tag := some ⟨tag, TagPattern.literal tag⟩, format := none, tagSeverity := .info
      severity := .error, tokens := DeclarationKind.types, id := .string id }
  { specs := [check "@x" "a", check "@y" "WriteTag#2"], paths := [⟨.here, ["src"]⟩]
    filter := ⟨["*.java"], []⟩, format := .text, showIgnored := false }

theorem loadConfig_sampleTree :
    (loadConfig { quiet := true } ⟨sampleTree, [], [], Toml.standard⟩).outcome =
      .ok sampleConfig := by
  have hfind : Config.find? sampleTree [] = some (.absolute [".tagcheck.toml"]) := by cbv
  have hread : sampleTree.read [] (.absolute [".tagcheck.toml"]) =
      .ok sampleText.toUTF8.toList := by cbv
  have htext : Text.Utf8.strict? sampleText.toUTF8.toList = some sampleText.toList := by cbv
  have htable : Toml.read? sampleText.toList = some [sampleChecks] := by cbv
  have heffective : Config.effective [sampleChecks] [] = .ok sampleConfig := by cbv
  simp only [loadConfig, hfind, Config.load, Config.readFile, hread, htext, Toml.standard, htable,
    heffective]
  rfl

theorem reportsOn_sampleEnum : reportsOn samplePlan.specs
    (Java.Source.ofText "src/B.java" "enum B \x7b\x7d".toList) =
      [{ line := 1, column := 0, key := .missingTag, args := ["@x"], severity := .error
         check := .string "a", path := "src/B.java" },
       { line := 1, column := 0, key := .missingTag, args := ["@y"], severity := .error
         check := .string "WriteTag#2", path := "src/B.java" }] := by
  cbv

theorem check_run_reports_visits_sampleTree :
    readRequest ["-q", "check", "src"] =
        .run { quiet := true } (.check { paths := [⟨.here, ["src"]⟩] }) ∧
      (loadConfig { quiet := true } ⟨sampleTree, [], [], Toml.standard⟩).outcome =
        .ok sampleConfig ∧
      planFor { paths := [⟨.here, ["src"]⟩] } sampleConfig = .ok samplePlan ∧
      samplePlan.specs ≠ [] ∧ (∀ spec ∈ samplePlan.specs, ∃ name, spec.id = .string name) ∧
      ∃ (results : List FileResult) (collected : List Diagnostic),
        Id.run ((checkFilesInto samplePlan.specs sampleTree []
          (sampleTree.collect [] samplePlan.filter samplePlan.paths)
          (some Report.collect)).run #[]) =
            (results, collected.toArray) ∧
        results.map FileResult.path = ["src/A.java", "src/B.java"] ∧
        (run ⟨sampleTree, [], [], Toml.standard⟩ ["-q", "check", "src"]).1.status = .ok 1 := by
  have hwords : readRequest ["-q", "check", "src"] =
      .run { quiet := true } (.check { paths := [⟨.here, ["src"]⟩] }) := by cbv
  have hplan : planFor { paths := [⟨.here, ["src"]⟩] } sampleConfig = .ok samplePlan := by cbv
  have hspecs : samplePlan.specs ≠ [] := List.cons_ne_nil _ _
  have hids : ∀ spec ∈ samplePlan.specs, ∃ name, spec.id = .string name := by
    simp only [samplePlan, List.forall_mem_cons]
    exact ⟨⟨_, rfl⟩, ⟨_, rfl⟩, by simp⟩
  have hcollect : sampleTree.collect [] samplePlan.filter samplePlan.paths =
      [⟨⟨.here, ["src", "A.java"]⟩, ⟨.root, ["src", "A.java"]⟩⟩,
        ⟨⟨.here, ["src", "B.java"]⟩, ⟨.root, ["src", "B.java"]⟩⟩] := by cbv
  have henum : sampleTree.javaSource [] ⟨.here, ["src", "B.java"]⟩ =
      .ok (Java.Source.ofText "src/B.java" "enum B \x7b\x7d".toList) := by cbv
  obtain ⟨files, sourceOf, results, collected, _, hfiles, hsource, hrun, hresults, hcollected, _, _,
    hstatus⟩ := check_run_reports_visits hwords loadConfig_sampleTree hplan hspecs hids
  have hfiles := hfiles.trans hcollect
  rw [hfiles] at hresults hcollected hsource hrun
  have hsourceOf := Except.ok.inj
    ((hsource _ (List.mem_cons_of_mem _ List.mem_cons_self)).symm.trans henum)
  rw [List.flatMap_cons, List.flatMap_cons, hsourceOf, reportsOn_sampleEnum] at hcollected
  have herror : ∃ d ∈ collected, d.severity = .error := by
    rw [hcollected]
    exact ⟨_, List.mem_append_right _ List.mem_cons_self, rfl⟩
  rw [if_pos herror] at hstatus
  rw [← hcollect] at hrun
  refine ⟨hwords, loadConfig_sampleTree, hplan, hspecs, hids, results, collected, hrun,
    ?_, hstatus⟩
  rw [hresults]
  rfl

end CommandLine

end JavadocTags
