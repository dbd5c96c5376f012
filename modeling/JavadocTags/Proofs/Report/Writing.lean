import Mathlib.Data.List.Basic
import JavadocTags.Report.Record
import JavadocTags.Report.Text

/-!
# Reports can be written

A report is written whatever it shows, as long as each diagnostic has a message and names its check
by a text. A value can be written as JSON when its parts can, and only dates and times cannot; the
records of a report hold texts and numbers besides the names of the checks.
-/
namespace JavadocTags.Json

/-- A value that can be written, however deep it stands. -/
def Writable (value : Value) : Prop :=
  ∀ layout depth, ∃ text, writeAt? layout depth value = some text

theorem writable_null : Writable .null :=
  fun _ _ => ⟨_, rfl⟩

theorem writable_bool (b : Bool) : Writable (.bool b) :=
  fun _ _ => ⟨_, rfl⟩

theorem writable_int (n : Int) : Writable (.int n) :=
  fun _ _ => ⟨_, rfl⟩

theorem writable_string (s : String) : Writable (.string s) :=
  fun _ _ => ⟨_, rfl⟩

theorem exists_writeItems? {items : List Value} (h : ∀ item ∈ items, Writable item)
    (layout : Layout) (depth : Nat) : ∃ texts, writeItems? layout depth items = some texts := by
  induction items with
  | nil => exact ⟨[], rfl⟩
  | cons item rest ih =>
      rw [List.forall_mem_cons] at h
      obtain ⟨text, htext⟩ := h.1 layout depth
      obtain ⟨texts, htexts⟩ := ih h.2
      refine ⟨text :: texts, ?_⟩
      rw [writeItems?, htext, htexts]
      rfl

theorem exists_writeMembers? {entries : List (String × Value)}
    (h : ∀ entry ∈ entries, Writable entry.2) (layout : Layout) (depth : Nat) :
    ∃ texts, writeMembers? layout depth entries = some texts := by
  induction entries with
  | nil => exact ⟨[], rfl⟩
  | cons entry rest ih =>
      rw [List.forall_mem_cons] at h
      obtain ⟨text, htext⟩ := h.1 layout depth
      obtain ⟨texts, htexts⟩ := ih h.2
      refine ⟨(writeString entry.1 ++ layout.colon ++ text) :: texts, ?_⟩
      rw [writeMembers?, htext, htexts]
      rfl

theorem writable_list {items : List Value} (h : ∀ item ∈ items, Writable item) :
    Writable (.list items) := by
  intro layout depth
  cases items with
  | nil => exact ⟨_, rfl⟩
  | cons item rest =>
      obtain ⟨texts, htexts⟩ := exists_writeItems? h layout (depth + 1)
      rw [writeAt?, htexts]
      exact ⟨_, rfl⟩

theorem writable_table {entries : List (String × Value)}
    (h : ∀ entry ∈ entries, Writable entry.2) : Writable (.table entries) := by
  intro layout depth
  cases entries with
  | nil => exact ⟨_, rfl⟩
  | cons entry rest =>
      obtain ⟨texts, htexts⟩ := exists_writeMembers? h layout (depth + 1)
      rw [writeAt?, htexts]
      exact ⟨_, rfl⟩

end JavadocTags.Json

namespace JavadocTags

open Json (Writable writable_null writable_bool writable_int writable_string writable_list
  writable_table)

/-- A diagnostic that any report can show: its message has the arguments that it needs, and its
check is named by a text. -/
structure Diagnostic.Presentable (d : Diagnostic) : Prop where
  message : ∃ text, d.message = .ok text
  check : ∃ name, d.check = .string name

namespace Diagnostic.Presentable
variable {d : Diagnostic}

theorem check_isOverlong (h : d.Presentable) : d.check.isOverlong = false := by
  obtain ⟨name, hname⟩ := h.check
  rw [hname]
  rfl

theorem exists_record (h : d.Presentable) :
    ∃ record, d.record = .ok record ∧ Writable record := by
  obtain ⟨message, hmessage⟩ := h.message
  obtain ⟨name, hname⟩ := h.check
  rw [Diagnostic.record, hmessage]
  refine ⟨_, rfl, writable_table ?_⟩
  rw [hname]
  simp only [List.forall_mem_cons]
  refine ⟨writable_string _, writable_int _, writable_int _, writable_string _,
    writable_string _, writable_list ?_, writable_string _, writable_string _, by simp⟩
  intro item hitem
  obtain ⟨text, _, rfl⟩ := List.mem_map.1 hitem
  exact writable_string text

theorem exists_reportLine (h : d.Presentable) : ∃ line, d.reportLine = .ok line := by
  obtain ⟨message, hmessage⟩ := h.message
  rw [reportLine, hmessage, h.check_isOverlong]
  exact ⟨_, rfl⟩

end Diagnostic.Presentable

namespace Report

theorem writable_fileRecord (result : FileResult) : Writable (fileRecord result) := by
  refine writable_table ?_
  simp only [List.forall_mem_cons]
  refine ⟨writable_string _, writable_int _, ?_, by simp⟩
  cases result.error with
  | none => exact writable_null
  | some error => exact writable_string error

theorem writable_summaryRecord (results : List FileResult) (ds : List Diagnostic) :
    Writable (summaryRecord results ds) := by
  refine writable_table fun entry hentry => ?_
  rw [List.mem_append, List.mem_append] at hentry
  rcases hentry with (hentry | hentry) | hentry
  · revert entry
    simp only [List.forall_mem_cons]
    exact ⟨writable_int _, writable_int _, writable_int _, by simp⟩
  · obtain ⟨severity, _, rfl⟩ := List.mem_map.1 hentry
    exact writable_int _
  · rw [List.mem_singleton.1 hentry]
    exact writable_bool _

theorem writable_document (results : List FileResult) (ds : List Diagnostic) {shown : List Value}
    (h : ∀ item ∈ shown, Writable item) : Writable (document results ds shown) := by
  refine writable_table ?_
  simp only [List.forall_mem_cons]
  refine ⟨writable_list ?_, writable_list h, writable_summaryRecord results ds, by simp⟩
  intro item hitem
  obtain ⟨result, _, rfl⟩ := List.mem_map.1 hitem
  exact writable_fileRecord result

theorem visible_sublist (showIgnored : Bool) (ds : List Diagnostic) :
    (visible showIgnored ds).Sublist ds := by
  unfold visible
  split
  · exact List.Sublist.refl ds
  · exact List.filter_sublist

theorem exists_mapM_eq_ok {ε α β : Type} {f : α → Except ε β} {items : List α} {P : β → Prop}
    (h : ∀ a ∈ items, ∃ b, f a = .ok b ∧ P b) :
    ∃ results, items.mapM f = .ok results ∧ ∀ b ∈ results, P b := by
  induction items with
  | nil => exact ⟨[], rfl, by simp⟩
  | cons a rest ih =>
      rw [List.forall_mem_cons] at h
      obtain ⟨b, hb, hP⟩ := h.1
      obtain ⟨results, hresults, hall⟩ := ih h.2
      refine ⟨b :: results, ?_, List.forall_mem_cons.2 ⟨hP, hall⟩⟩
      rw [List.mapM_cons, hb, hresults]
      rfl

variable {ds : List Diagnostic}

theorem presentable_of_mem_visible (h : ∀ d ∈ ds, d.Presentable) (showIgnored : Bool) :
    ∀ d ∈ visible showIgnored ds, d.Presentable :=
  fun d hd => h d ((visible_sublist showIgnored ds).subset hd)

theorem exists_records (h : ∀ d ∈ ds, d.Presentable) (showIgnored : Bool) :
    ∃ records, (visible showIgnored ds).mapM (·.record) = .ok records ∧
      ∀ item ∈ records, Writable item :=
  exists_mapM_eq_ok fun d hd => (presentable_of_mem_visible h showIgnored d hd).exists_record

theorem exists_lines (h : ∀ d ∈ ds, d.Presentable) (showIgnored : Bool) :
    ∃ lines, (visible showIgnored ds).mapM (·.reportLine) = .ok lines := by
  have hline : ∀ d ∈ visible showIgnored ds, ∃ line, d.reportLine = .ok line ∧ True := by
    intro d hd
    obtain ⟨line, hline⟩ := (presentable_of_mem_visible h showIgnored d hd).exists_reportLine
    exact ⟨line, hline, trivial⟩
  obtain ⟨lines, hlines, _⟩ := exists_mapM_eq_ok hline
  exact ⟨lines, hlines⟩

theorem any_isOverlong_visible (h : ∀ d ∈ ds, d.Presentable) (showIgnored : Bool) :
    (visible showIgnored ds).any (·.check.isOverlong) = false := by
  rw [List.any_eq_false]
  intro d hd
  rw [(presentable_of_mem_visible h showIgnored d hd).check_isOverlong]
  exact Bool.false_ne_true

theorem json_eq {showIgnored : Bool} {results : List FileResult} {records : List Value}
    {body : String} (h : ∀ d ∈ ds, d.Presentable)
    (hrecords : (visible showIgnored ds).mapM (·.record) = .ok records)
    (hbody : Json.write? Json.Layout.indented (document results ds records) = some body) :
    json showIgnored results ds = .ok (body ++ "\n") := by
  rw [json, hrecords, any_isOverlong_visible h showIgnored]
  simp only [bind, Except.bind, Bool.false_eq_true, if_false, hbody]
  rfl

theorem exists_json (h : ∀ d ∈ ds, d.Presentable) (showIgnored : Bool)
    (results : List FileResult) : ∃ text, json showIgnored results ds = .ok text := by
  obtain ⟨records, hrecords, hwritable⟩ := exists_records h showIgnored
  obtain ⟨body, hbody⟩ := writable_document results ds hwritable Json.Layout.indented 0
  exact ⟨_, json_eq h hrecords hbody⟩

theorem exists_text (h : ∀ d ∈ ds, d.Presentable) (showIgnored quiet : Bool)
    (results : List FileResult) : ∃ output, text showIgnored quiet results ds = .ok output := by
  obtain ⟨lines, hlines⟩ := exists_lines h showIgnored
  rw [text, hlines]
  exact ⟨_, rfl⟩

end Report

end JavadocTags
