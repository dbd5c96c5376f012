import Mathlib.Data.List.Basic
import JavadocTags.Check.Run

/-!
# What receivers are told

A program emits a list of diagnostics if it does nothing but hand them to the receiver, one after
the other, whatever the receiver does with them. Emissions add up along a program, so a run of
checks emits the diagnostics of its files in their order, and a collector ends up with these.
-/
namespace JavadocTags.Report

section Emission
variable {m : Type → Type} [Monad m] {α β : Type} {sink : Option (Sink m)}

/-- A program that hands diagnostics to a receiver, does nothing else, and returns a result. -/
def Emits (sink : Option (Sink m)) (program : m α) (reports : List Diagnostic) (result : α) :
    Prop :=
  program = do
    forM reports (tell sink)
    return result

variable [LawfulMonad m]

theorem emits_return (a : α) : Emits sink (return a) [] a := by
  rw [Emits, List.forM_nil, pure_bind]

theorem Emits.bind {program : m α} {next : α → m β} {reports later : List Diagnostic} {a : α}
    {b : β} (hprogram : Emits sink program reports a) (hnext : Emits sink (next a) later b) :
    Emits sink (program >>= next) (reports ++ later) b := by
  rw [Emits] at hprogram hnext ⊢
  rw [hprogram, List.forM_append, bind_assoc, bind_assoc, pure_bind, hnext]

theorem Emits.returning {program : m α} {reports : List Diagnostic} {a : α}
    (h : Emits sink program reports a) (f : α → β) :
    Emits sink (program >>= fun a => return f a) reports (f a) := by
  rw [Emits] at h ⊢
  rw [h, bind_assoc, pure_bind]

theorem emits_emit (d : Diagnostic) : Emits sink (emit sink d) [d] [d] := by
  rw [Emits, List.forM_cons, List.forM_nil, bind_assoc, pure_bind]
  rfl

theorem emits_emitEach {step : α → m (List Diagnostic)} {reports : α → List Diagnostic}
    (h : ∀ a, Emits sink (step a) (reports a) (reports a)) (items : List α) :
    Emits sink (emitEach step items) (items.flatMap reports) (items.flatMap reports) := by
  induction items with
  | nil => exact emits_return []
  | cons a rest ih =>
      exact (h a).bind (ih.returning (reports a ++ ·))

theorem emits_mapM {step : α → m β} {reports : α → List Diagnostic} {result : α → β}
    (h : ∀ a, Emits sink (step a) (reports a) (result a)) (items : List α) :
    Emits sink (items.mapM step) (items.flatMap reports) (items.map result) := by
  induction items with
  | nil =>
      rw [List.mapM_nil]
      exact emits_return []
  | cons a rest ih =>
      rw [List.mapM_cons]
      exact (h a).bind (ih.returning (result a :: ·))

end Emission

theorem run_tell_collect (reports : List Diagnostic) (received : Array Diagnostic) :
    (forM reports (tell (some collect))).run received =
      pure ((), received ++ reports.toArray) := by
  induction reports generalizing received with
  | nil => simp
  | cons d reports ih =>
      rw [List.forM_cons, StateT.run_bind]
      show (forM reports (tell (some collect))).run (received.push d) = _
      rw [ih (received.push d)]
      simp

theorem Emits.run_collect {α : Type} {program : StateM (Array Diagnostic) α}
    {reports : List Diagnostic} {result : α}
    (h : Emits (some collect) program reports result) (received : Array Diagnostic) :
    Id.run (program.run received) = (result, received ++ reports.toArray) := by
  rw [Emits] at h
  rw [h, StateT.run_bind, run_tell_collect]
  rfl

end JavadocTags.Report

namespace JavadocTags

open Report (Emits emits_return emits_emit emits_emitEach emits_mapM)

section Run
variable {m : Type → Type} [Monad m] [LawfulMonad m] (sink : Option (Sink m))

namespace TagSpec

theorem emits_visitInto (spec : TagSpec) (d : Declaration) (comments : CommentIndex)
    (path : String) :
    Emits sink (spec.visitInto d comments path sink) (spec.visit d comments path)
      (spec.visit d comments path) := by
  unfold visitInto visit
  split
  · exact emits_return []
  · split
    · exact emits_emit _
    · split
      · exact emits_emit _
      · rw [List.map_eq_flatMap]
        exact emits_emitEach (fun m => emits_emit _) _

theorem emits_checkSourceInto (spec : TagSpec) (source : Java.Source) :
    Emits sink (spec.checkSourceInto source sink) (spec.checkSource source)
      (spec.checkSource source) :=
  emits_emitEach (fun d => emits_visitInto sink spec d _ _) _

end TagSpec

theorem emits_checkFileInto (specs : List TagSpec) (tree : FileTree) (cwd : Location)
    (path : Path) :
    Emits sink (checkFileInto specs tree cwd path sink)
      (checkFile specs tree cwd path).diagnostics (checkFile specs tree cwd path) := by
  unfold checkFileInto checkFile
  split
  · exact emits_return _
  · rename_i source _
    have hreports := emits_emitEach (fun spec => TagSpec.emits_checkSourceInto sink spec source)
      specs
    exact hreports.returning fun diagnostics => FileResult.mk path.toText
      source.declarations.length diagnostics none

theorem emits_checkFilesInto (specs : List TagSpec) (tree : FileTree) (cwd : Location)
    (files : List FoundFile) :
    Emits sink (checkFilesInto specs tree cwd files sink)
      (Report.collected (checkFiles specs tree cwd files)) (checkFiles specs tree cwd files) := by
  rw [Report.collected, checkFiles, List.flatMap_map]
  exact emits_mapM (fun file => emits_checkFileInto sink specs tree cwd file.path) files

end Run

theorem checkFilesInto_collect (specs : List TagSpec) (tree : FileTree) (cwd : Location)
    (files : List FoundFile) :
    Id.run ((checkFilesInto specs tree cwd files (some Report.collect)).run #[]) =
      (checkFiles specs tree cwd files,
        (Report.collected (checkFiles specs tree cwd files)).toArray) := by
  have hrun := (emits_checkFilesInto (some Report.collect) specs tree cwd files).run_collect #[]
  rwa [Array.empty_append] at hrun

end JavadocTags
