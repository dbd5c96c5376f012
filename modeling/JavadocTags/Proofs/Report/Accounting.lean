import Mathlib
import JavadocTags.Proofs.Check.Emission
import JavadocTags.Proofs.Config.Merging
import JavadocTags.Proofs.Outcome
import JavadocTags.Proofs.Report.Writing

/-!
# Reports account for every diagnostic

The text report and the JSON report are made from the collected diagnostics apart from each other.
Both show the same of them, in the order of emission, and every number in the summary of the one is
found in the summary of the other. The lines of the text summary are told apart by how they begin,
so that a line which is not printed cannot be mistaken for another one.
-/
namespace JavadocTags.Report

/-! ## Counting -/

section Counting
variable (ds : List Diagnostic)

theorem count_eq_length (severity : Severity) :
    count severity ds = (withSeverity severity ds).length :=
  List.countP_eq_length_filter

theorem sum_count : (Severity.all.map fun severity => count severity ds).sum = ds.length := by
  induction ds with
  | nil => rfl
  | cons d ds ih =>
      have hcons (severity : Severity) : count severity (d :: ds) =
          count severity ds + if d.severity = severity then 1 else 0 := by
        simp only [count, List.countP_cons, decide_eq_true_eq]
      simp only [Severity.all, List.map_cons, List.map_nil, List.sum_cons, List.sum_nil,
        List.length_cons, hcons] at ih ⊢
      cases d.severity <;> simp <;> omega

theorem count_error_eq_zero_iff : count .error ds = 0 ↔ hasErrors ds = false := by
  simp only [count, List.countP_eq_zero, decide_eq_true_eq, hasErrors, List.any_eq_false]

end Counting

/-! ## The characters of written numbers -/

section Numbers
variable {c : Char}

theorem isDigit_of_mem_toString {n : Nat} (h : c ∈ (toString n).toList) : c.isDigit = true := by
  rw [Nat.toString_eq_ofList_toDigits, String.toList_ofList] at h
  exact Nat.isDigit_of_mem_toDigits (by decide) (by decide) h

theorem isDigit_or_minus_of_mem_toString {n : Int} (h : c ∈ (toString n).toList) :
    c.isDigit = true ∨ c = '-' := by
  cases n with
  | ofNat n => exact .inl (isDigit_of_mem_toString h)
  | negSucc n =>
      have hminus : toString (Int.negSucc n) = "-" ++ toString (n + 1) := rfl
      rw [hminus, String.toList_append, List.mem_append] at h
      rcases h with h | h
      · exact .inr (List.mem_singleton.1 h)
      · exact .inl (isDigit_of_mem_toString h)

end Numbers

/-! ## The lines of a summary -/

def checkedLine (declarations : Int) (files : Nat) : String :=
  "Checked " ++ toString declarations ++ " declarations in " ++ toString files ++ " files"

def hiddenLine (n : Nat) : String :=
  "   (" ++ toString n ++ " ignored diagnostics hidden)"

def passedLine : String := "✓ No errors"

@[simp] theorem mem_countLine {line before after : String} {n : Nat} :
    line ∈ countLine before n after ↔ n ≠ 0 ∧ line = before ++ toString n ++ after := by
  rw [countLine]
  split
  next h => simp [h]
  next h => simp [h]

inductive SummaryLine (showIgnored : Bool) (results : List FileResult) (ds : List Diagnostic) :
    String → Prop
  | rule : SummaryLine showIgnored results ds rule
  | checked : SummaryLine showIgnored results ds
      (checkedLine (declarationCount results) results.length)
  | errors (h : count .error ds ≠ 0) : SummaryLine showIgnored results ds
      ("❌ " ++ toString (count .error ds) ++ " errors")
  | warnings (h : count .warning ds ≠ 0) : SummaryLine showIgnored results ds
      ("⚠️  " ++ toString (count .warning ds) ++ " warnings")
  | infos (h : count .info ds ≠ 0) : SummaryLine showIgnored results ds
      ("ℹ️  " ++ toString (count .info ds) ++ " info")
  | hidden (h : ds.length - (visible showIgnored ds).length ≠ 0) :
      SummaryLine showIgnored results ds (hiddenLine (ds.length - (visible showIgnored ds).length))
  | passed (h : count .error ds = 0) : SummaryLine showIgnored results ds passedLine

section Summary
variable {showIgnored : Bool} {results : List FileResult} {ds : List Diagnostic} {line : String}

theorem mem_summary : line ∈ summary showIgnored results ds ↔
    SummaryLine showIgnored results ds line := by
  simp only [summary, List.mem_append, mem_countLine]
  constructor
  · rintro (((((h | ⟨h, rfl⟩) | ⟨h, rfl⟩) | ⟨h, rfl⟩) | ⟨h, rfl⟩) | h)
    · simp only [List.mem_cons, List.not_mem_nil, or_false] at h
      rcases h with rfl | rfl
      · exact .rule
      · exact .checked
    · exact .errors h
    · exact .warnings h
    · exact .infos h
    · exact .hidden h
    · split at h
      next hcount =>
        rw [List.mem_singleton.1 h]
        exact .passed hcount
      next => cases h
  · intro h
    cases h with
    | rule => simp
    | checked => simp [checkedLine]
    | errors h => simp [h]
    | warnings h => simp [h]
    | infos h => simp [h]
    | hidden h => exact .inl (.inr ⟨h, rfl⟩)
    | passed h => simp [h, passedLine]

def lead (line : String) : Option Char :=
  line.toList.head?

theorem lead_append {before : String} (h : before ≠ "") (middle after : String) :
    lead (before ++ middle ++ after) = lead before := by
  have hne : before.toList ≠ [] := mt String.toList_eq_nil_iff.1 h
  rw [lead, lead, String.append_assoc, String.toList_append, List.head?_append_of_ne_nil _ hne]

@[simp] theorem lead_rule : lead rule = some '─' := by
  have hrule : rule.toList = List.replicate 60 '─' := String.toList_ofList
  rw [lead, hrule]
  exact List.head?_replicate.trans (if_neg (by decide))

@[simp] theorem lead_checkedLine (declarations : Int) (files : Nat) :
    lead (checkedLine declarations files) = some 'C' := by
  rw [checkedLine, String.append_assoc, String.append_assoc]
  exact lead_append (by decide) _ _

@[simp] theorem lead_hiddenLine (n : Nat) : lead (hiddenLine n) = some ' ' :=
  lead_append (by decide) _ _

/-- The lines of a summary that matter here are known by how they begin. -/
theorem SummaryLine.lead_eq (h : SummaryLine showIgnored results ds line) :
    (lead line = some '✓' ∧ count .error ds = 0) ∨
      (lead line = some ' ' ∧ ds.length - (visible showIgnored ds).length ≠ 0 ∧
        line = hiddenLine (ds.length - (visible showIgnored ds).length)) ∨
      (lead line = some 'C' ∧ line = checkedLine (declarationCount results) results.length) ∨
      lead line ∈ [some '─', some '❌', some '⚠', some 'ℹ'] := by
  cases h with
  | rule => simp
  | checked => simp
  | errors => exact .inr (.inr (.inr (by rw [lead_append (by decide)]; decide)))
  | warnings => exact .inr (.inr (.inr (by rw [lead_append (by decide)]; decide)))
  | infos => exact .inr (.inr (.inr (by rw [lead_append (by decide)]; decide)))
  | hidden h => simp [h]
  | passed h => exact .inl ⟨rfl, h⟩

theorem passedLine_mem_summary :
    passedLine ∈ summary showIgnored results ds ↔ hasErrors ds = false := by
  rw [mem_summary, ← count_error_eq_zero_iff]
  refine ⟨fun h => ?_, .passed⟩
  have hlead : lead passedLine = some '✓' := rfl
  have hlines := h.lead_eq
  rw [hlead] at hlines
  simpa using hlines

theorem hiddenLine_mem_summary {n : Nat} :
    hiddenLine n ∈ summary showIgnored results ds ↔
      n ≠ 0 ∧ n = ds.length - (visible showIgnored ds).length := by
  rw [mem_summary]
  constructor
  · intro h
    have hlines := h.lead_eq
    simp only [lead_hiddenLine, Option.some.injEq, List.mem_cons, List.not_mem_nil] at hlines
    obtain ⟨hne, hline⟩ : ds.length - (visible showIgnored ds).length ≠ 0 ∧
        hiddenLine n = hiddenLine (ds.length - (visible showIgnored ds).length) := by
      simpa using hlines
    rw [hiddenLine, hiddenLine, String.append_left_inj, String.append_right_inj] at hline
    have hn := Nat.repr_inj.1 hline
    exact ⟨hn ▸ hne, hn⟩
  · rintro ⟨hne, rfl⟩
    exact .hidden hne

theorem checkedLine_inj {declarations others : Int} {files : Nat} {n : Nat}
    (h : checkedLine declarations files = checkedLine others n) :
    declarations = others ∧ files = n := by
  have hnumber (m : Int) : ∀ c ∈ (toString m).toList, decide (c ≠ ' ') = true := by
    intro c hc
    rcases isDigit_or_minus_of_mem_toString hc with h | rfl
    · exact decide_eq_true fun heq => by rw [heq] at h; exact absurd h (by decide)
    · decide
  rw [checkedLine, checkedLine, String.append_left_inj, String.append_assoc, String.append_assoc,
    String.append_assoc, String.append_assoc, String.append_right_inj] at h
  have hfirst : toString declarations = toString others := by
    have hwords := congrArg (fun line => line.toList.takeWhile (· ≠ ' ')) h
    simp only [String.toList_append, List.takeWhile_append_of_pos (hnumber _)] at hwords
    exact String.toList_inj.1 (by simpa using hwords)
  rw [hfirst, String.append_right_inj, String.append_right_inj] at h
  exact ⟨Int.repr_inj.1 hfirst, Nat.repr_inj.1 h⟩

theorem checkedLine_mem_summary {declarations : Int} {files : Nat} :
    checkedLine declarations files ∈ summary showIgnored results ds ↔
      declarations = declarationCount results ∧ files = results.length := by
  rw [mem_summary]
  constructor
  · intro h
    have hlines := h.lead_eq
    rw [lead_checkedLine] at hlines
    exact checkedLine_inj (by simpa using hlines)
  · rintro ⟨rfl, rfl⟩
    exact .checked

end Summary

/-! ## Both reports -/

theorem severity_name_injective : Function.Injective Severity.name := by
  intro s t
  cases s <;> cases t <;> decide

theorem key_name_injective : Function.Injective MessageKey.name := by
  intro s t
  cases s <;> cases t <;> decide

theorem declarationCount_eq_sum (results : List FileResult) :
    declarationCount results = (results.map (·.declarations)).sum := by
  rw [declarationCount, List.sum_eq_foldl, List.foldl_map]

theorem forall₂_of_mapM_eq_ok {ε α β : Type} {f : α → Except ε β} {items : List α}
    {images : List β} (h : items.mapM f = .ok images) :
    List.Forall₂ (fun a b => f a = .ok b) items images := by
  induction items generalizing images with
  | nil =>
      cases h
      exact .nil
  | cons a items ih =>
      rw [List.mapM_cons] at h
      obtain ⟨b, hb, h⟩ := exists_of_bind_eq_ok h
      obtain ⟨later, hlater, h⟩ := exists_of_bind_eq_ok h
      cases h
      exact .cons hb (ih hlater)

/-- What the line and the record of a diagnostic hold: its place, how serious it is, the message
with its arguments and the check. -/
structure ShownAs (d : Diagnostic) (line : String) (record : Value) (wording : String) : Prop where
  message : d.message = .ok wording
  line : line = "[" ++ d.severity.label ++ "] " ++ d.path ++ ":" ++ toString d.line ++ ":"
    ++ toString (d.column + 1) ++ ": " ++ wording ++ " [" ++ d.check.plain ++ "]"
  place : record.at? ["path"] = some (.string d.path) ∧
    record.at? ["line"] = some (.int d.line) ∧ record.at? ["column"] = some (.int d.column)
  severity : record.at? ["severity"] = some (.string d.severity.name)
  outcome : record.at? ["key"] = some (.string d.key.name) ∧
    record.at? ["args"] = some (.list (d.args.map .string)) ∧
    record.at? ["message"] = some (.string wording)
  check : record.at? ["check"] = some d.check

theorem exists_shownAs {d : Diagnostic} {line : String} {record : Value}
    (hline : d.reportLine = .ok line) (hrecord : d.record = .ok record) :
    ∃ wording, ShownAs d line record wording := by
  obtain ⟨message, hmessage, hrecord⟩ := exists_of_bind_eq_ok hrecord
  obtain ⟨other, hother, hline⟩ := exists_of_bind_eq_ok hline
  cases hmessage.symm.trans hother
  split at hline
  · cases hline
  · cases hline
    cases hrecord
    exact ⟨message, hmessage, rfl, ⟨rfl, rfl, rfl⟩, rfl, ⟨rfl, rfl, rfl⟩, rfl⟩

theorem eq_of_record_eq {d e : Diagnostic} {record : Value} (hd : d.record = .ok record)
    (he : e.record = .ok record) : d = e := by
  obtain ⟨message, _, hd⟩ := exists_of_bind_eq_ok hd
  obtain ⟨other, _, he⟩ := exists_of_bind_eq_ok he
  have hfields := (Except.ok.inj hd).trans (Except.ok.inj he).symm
  simp only [Value.table.injEq, List.cons.injEq, Prod.mk.injEq, true_and, and_true,
    Value.string.injEq, Value.int.injEq, Value.list.injEq] at hfields
  obtain ⟨hpath, hline, hcolumn, hseverity, hkey, hargs, -, hcheck⟩ := hfields
  have hseverity := severity_name_injective hseverity
  have hkey := key_name_injective hkey
  have hargs := List.map_injective_iff.2 (fun _ _ => Value.string.inj) hargs
  cases d
  cases e
  simp_all

/-- The text report and the JSON report on diagnostics: `lines` are the lines of the former for the
diagnostics that it shows and `closing` those of its summary, `document` is what the latter is
written from. -/
structure Accounted (showIgnored : Bool) (results : List FileResult) (ds : List Diagnostic)
    (lines closing : List String) (document : Value) : Prop where
  counts : ∀ severity : Severity, count severity ds = (withSeverity severity ds).length ∧
    document.at? ["summary", severity.name] = some (.int (count severity ds))
  sum : (Severity.all.map fun severity => count severity ds).sum = ds.length
  shown : ∃ (shown : List Diagnostic) (records : List Value),
    shown = (if showIgnored then ds else ds.filter (·.severity ≠ .ignore)) ∧
    List.Forall₂ (fun d line => d.reportLine = .ok line) shown lines ∧
    document.at? ["diagnostics"] = some (.list records) ∧
    List.Forall₂ (fun d record => d.record = .ok record) shown records
  total : ∃ hidden total : Nat, (∀ n, hiddenLine n ∈ closing ↔ n ≠ 0 ∧ n = hidden) ∧
    document.at? ["summary", "total"] = some (.int total) ∧ lines.length + hidden = total ∧
    total = ds.length
  checked : ∃ (declarations : Int) (files : Nat),
    (∀ d n, checkedLine d n ∈ closing ↔ d = declarations ∧ n = files) ∧
    document.at? ["summary", "declarations"] = some (.int declarations) ∧
    document.at? ["summary", "files"] = some (.int files) ∧
    declarations = (results.map (·.declarations)).sum ∧ files = results.length
  passed : (passedLine ∈ closing ↔ hasErrors ds = false) ∧
    (document.at? ["summary", "passed"] = some (.bool true) ↔ hasErrors ds = false)

variable {showIgnored : Bool} {results : List FileResult} {ds : List Diagnostic}

theorem accounted {lines : List String} {records : List Value}
    (hlines : (visible showIgnored ds).mapM (·.reportLine) = .ok lines)
    (hrecords : (visible showIgnored ds).mapM (·.record) = .ok records) :
    Accounted showIgnored results ds lines (summary showIgnored results ds)
      (document results ds records) where
  counts severity := ⟨count_eq_length ds severity, by cases severity <;> rfl⟩
  sum := sum_count ds
  shown := ⟨visible showIgnored ds, records, rfl, forall₂_of_mapM_eq_ok hlines, rfl,
    forall₂_of_mapM_eq_ok hrecords⟩
  total := by
    have hlength : (visible showIgnored ds).length = lines.length :=
      (forall₂_of_mapM_eq_ok hlines).length_eq
    have hle := (visible_sublist showIgnored ds).length_le
    refine ⟨_, _, fun n => hiddenLine_mem_summary, rfl, ?_, rfl⟩
    omega
  checked := ⟨_, _, fun d n => checkedLine_mem_summary, rfl, rfl,
    declarationCount_eq_sum results, rfl⟩
  passed := by
    refine ⟨passedLine_mem_summary, ?_⟩
    have hpassed : (document results ds records).at? ["summary", "passed"] =
        some (.bool (count .error ds == 0)) := rfl
    rw [hpassed, ← count_error_eq_zero_iff]
    simp

/-- Whatever diagnostics are emitted to a collector, it keeps them in their order, both reports on
them can be written, the text report quiet or not, and the two account for all of them: they show
the same diagnostics, their totals agree, what the one hides is missing in both, and either both
call the run free of errors or neither does. -/
theorem reports_account (h : ∀ d ∈ ds, d.Presentable) (results : List FileResult)
    (showIgnored : Bool) :
    Id.run ((forM ds (tell (some collect))).run #[]) = ((), ds.toArray) ∧
      ∃ (lines closing : List String) (document : Value) (errors body : String),
        text showIgnored true results ds = .ok ⟨Text.unlines lines, errors⟩ ∧
        text showIgnored false results ds = .ok ⟨Text.unlines (lines ++ closing), errors⟩ ∧
        Json.write? Json.Layout.indented document = some body ∧
        json showIgnored results ds = .ok (body ++ "\n") ∧
        Accounted showIgnored results ds lines closing document := by
  have hrun := run_tell_collect ds #[]
  rw [Array.empty_append] at hrun
  obtain ⟨lines, hlines⟩ := exists_lines h showIgnored
  obtain ⟨records, hrecords, hwritable⟩ := exists_records h showIgnored
  obtain ⟨body, hbody⟩ := writable_document results ds hwritable Json.Layout.indented 0
  refine ⟨hrun, lines, summary showIgnored results ds, document results ds records,
    errorLines results, body, ?_, ?_, hbody, json_eq h hrecords hbody, accounted hlines hrecords⟩
  · rw [text, hlines]
    rfl
  · rw [text, hlines]
    rfl

/-- A warning, a diagnostic of the severity that is hidden, and an information. -/
def sampleDiagnostics : List Diagnostic :=
  [{ line := 1, column := 0, key := .writeTag, args := ["@a", "x"], severity := .warning },
    { line := 4, column := 2, key := .missingTag, args := ["@b"], severity := .ignore },
    { line := 6, column := 0, key := .tagFormat, args := ["@a", "\\d"], severity := .info }]

theorem presentable_sampleDiagnostics : ∀ d ∈ sampleDiagnostics, d.Presentable := by
  simp only [sampleDiagnostics, List.forall_mem_cons]
  exact ⟨⟨⟨_, rfl⟩, _, rfl⟩, ⟨⟨_, rfl⟩, _, rfl⟩, ⟨⟨_, rfl⟩, _, rfl⟩, by simp⟩

/-- Two of the three diagnostics are shown, the third is counted as hidden, and none is an error. -/
theorem reports_account_sampleDiagnostics :
    (∀ d ∈ sampleDiagnostics, d.Presentable) ∧
      ∃ (lines closing : List String) (document : Value) (errors body : String),
        text false false [{ path := "A.java", declarations := 3 }] sampleDiagnostics =
          .ok ⟨Text.unlines (lines ++ closing), errors⟩ ∧
        json false [{ path := "A.java", declarations := 3 }] sampleDiagnostics =
          .ok (body ++ "\n") ∧
        lines.length = 2 ∧ hiddenLine 1 ∈ closing ∧ passedLine ∈ closing ∧
        checkedLine 3 1 ∈ closing ∧ document.at? ["summary", "total"] = some (.int 3) ∧
        document.at? ["summary", "passed"] = some (.bool true) := by
  obtain ⟨-, lines, closing, document, errors, body, -, htext, -, hjson, haccount⟩ :=
    reports_account presentable_sampleDiagnostics [{ path := "A.java", declarations := 3 }] false
  obtain ⟨shown, records, hshown, hlines, -, -⟩ := haccount.shown
  obtain ⟨hidden, total, hhidden, htotal, hsum, hall⟩ := haccount.total
  obtain ⟨declarations, files, hchecked, -, -, hdeclarations, hfiles⟩ := haccount.checked
  have hlength : lines.length = 2 := by
    rw [← hlines.length_eq, hshown]
    rfl
  have hthree : total = 3 := hall
  have hclear : hasErrors sampleDiagnostics = false := rfl
  refine ⟨presentable_sampleDiagnostics, lines, closing, document, errors, body, htext, hjson,
    hlength, (hhidden 1).2 ⟨by decide, by omega⟩, haccount.passed.1.2 hclear,
    (hchecked 3 1).2 ⟨hdeclarations.symm, hfiles.symm⟩, ?_, haccount.passed.2.2 hclear⟩
  rw [htotal, hthree]
  rfl

end JavadocTags.Report
