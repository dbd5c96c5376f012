import JavadocTags.Check.Spec
import JavadocTags.Java.Source
import JavadocTags.Report.Sink

/-!
# Running a check

A check visits a declaration and looks for its tag in the Javadoc block before it. If there is no
block, or no line of it has the tag, the tag is missing; otherwise each line with the tag is
reported, as found or as badly formed. The place of a line is counted back from the declaration, as
if the block ended just above it. `visit` gives the diagnostics of a declaration, and `visitInto`
hands them to a receiver on the way.
-/
namespace JavadocTags

/-- Which Javadoc block documents a line. -/
abbrev CommentIndex := Int → Option Java.DocComment

namespace TagSpec

/-- A diagnostic of a check at a declaration. -/
def diagnosticAt (spec : TagSpec) (d : Declaration) (path : String) (line : Int)
    (key : MessageKey) (args : List String) (severity : Severity) : Diagnostic :=
  { line, column := d.column, key, args, severity, check := spec.id, path }

def missing (spec : TagSpec) (tag : Tag) (d : Declaration) (path : String) : Diagnostic :=
  spec.diagnosticAt d path d.line .missingTag [tag.name] spec.severity

/-- The report of a tag that was found in a comment of `total` lines. -/
def found (spec : TagSpec) (tag : Tag) (d : Declaration) (path : String) (total : Nat)
    (m : TagMatch) : Diagnostic :=
  let line := d.line + m.lineOffset - total
  let accepted :=
    spec.diagnosticAt d path line .writeTag [tag.name, String.ofList m.content] spec.tagSeverity
  match spec.format with
  | none => accepted
  | some format =>
      if format.occursIn m.content then accepted
      else spec.diagnosticAt d path line .tagFormat [tag.name, format.source] spec.severity

def visit (spec : TagSpec) (d : Declaration) (comments : CommentIndex) (path : String) :
    List Diagnostic :=
  match spec.tag with
  | none => []
  | some tag =>
      match comments d.line with
      | none => [spec.missing tag d path]
      | some comment =>
          match TagPattern.find tag.pattern comment.lines with
          | [] => [spec.missing tag d path]
          | found => found.map (spec.found tag d path comment.lines.length)

/-- A report on a match stands at its line, and says more than that the tag is missing. -/
theorem exists_found_eq (spec : TagSpec) (tag : Tag) (d : Declaration) (path : String)
    (total : Nat) (m : TagMatch) :
    ∃ key detail severity, key ≠ .missingTag ∧ spec.found tag d path total m =
      spec.diagnosticAt d path (d.line + m.lineOffset - total) key [tag.name, detail] severity := by
  unfold found
  split
  · exact ⟨.writeTag, _, _, MessageKey.noConfusion, rfl⟩
  · split
    · exact ⟨.writeTag, _, _, MessageKey.noConfusion, rfl⟩
    · exact ⟨.tagFormat, _, _, MessageKey.noConfusion, rfl⟩

/-- What a visit reports is that the tag is missing, or a match in the comment. -/
theorem of_mem_visit {spec : TagSpec} {d : Declaration} {comments : CommentIndex} {path : String}
    {report : Diagnostic} (h : report ∈ spec.visit d comments path) :
    ∃ tag, spec.tag = some tag ∧ (report = spec.missing tag d path ∨
      ∃ comment m, comments d.line = some comment ∧ m ∈ TagPattern.find tag.pattern comment.lines ∧
        report = spec.found tag d path comment.lines.length m) := by
  unfold visit at h
  split at h
  next => cases h
  next tag htag =>
    refine ⟨tag, htag, ?_⟩
    split at h
    next => exact .inl (List.mem_singleton.1 h)
    next comment hcomment =>
      split at h
      next => exact .inl (List.mem_singleton.1 h)
      next =>
        obtain ⟨m, hm, rfl⟩ := List.mem_map.1 h
        exact .inr ⟨comment, m, hcomment, hm, rfl⟩

/-- Visits a declaration, and hands each diagnostic to a receiver when it is made. -/
def visitInto {m : Type → Type} [Monad m] (spec : TagSpec) (d : Declaration)
    (comments : CommentIndex) (path : String) (sink : Option (Sink m)) : m (List Diagnostic) :=
  match spec.tag with
  | none => return []
  | some tag =>
      match comments d.line with
      | none => Report.emit sink (spec.missing tag d path)
      | some comment =>
          match TagPattern.find tag.pattern comment.lines with
          | [] => Report.emit sink (spec.missing tag d path)
          | found =>
              let total := comment.lines.length
              Report.emitEach (fun m => Report.emit sink (spec.found tag d path total m)) found

def covers (spec : TagSpec) (d : Declaration) : Bool :=
  spec.tokens.contains d.kind

/-- Visits the declarations of a source that the check runs on, in order. -/
def checkSource (spec : TagSpec) (source : Java.Source) : List Diagnostic :=
  (source.declarations.filter spec.covers).flatMap fun d =>
    spec.visit d source.javadocBefore? source.path

def checkSourceInto {m : Type → Type} [Monad m] (spec : TagSpec) (source : Java.Source)
    (sink : Option (Sink m)) : m (List Diagnostic) :=
  Report.emitEach (fun d => spec.visitInto d source.javadocBefore? source.path sink)
    (source.declarations.filter spec.covers)

def lacksJavadoc (spec : TagSpec) (d : Declaration) (comments : CommentIndex) : Bool :=
  spec.isConfigured && (comments d.line).isNone

/-- The declarations of a source that a check visits and that no Javadoc block documents. -/
def undocumented (spec : TagSpec) (source : Java.Source) : List Declaration :=
  source.declarations.filter fun d => spec.covers d && spec.lacksJavadoc d source.javadocBefore?

end TagSpec

end JavadocTags
