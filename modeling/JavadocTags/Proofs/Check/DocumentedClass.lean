import JavadocTags.Check.Visit
import JavadocTags.Proofs.Java.DocumentedClass
import JavadocTags.Proofs.Pattern.TagSearch

/-!
# A literal tag on a documented class

A check for a literal tag on a class below a Javadoc block, from the table that describes the check
and the text of the source to the diagnostics. The lines that a diagnostic can name are the lines of
the text, and its content is the rest of the line behind the first occurrence of the tag.
-/
namespace JavadocTags

open Java (BodyLine AsciiName blockLines documentedClass)
open Pattern (literalNode afterFirst?)

/-- The check that a table with a literal tag describes. -/
def literalSpec (tag : String) : TagSpec :=
  { tag := some ⟨tag, TagPattern.sourceOf tag true, {}, 1, literalNode tag.toList⟩
    format := none
    tagSeverity := .info
    severity := .error
    tokens := DeclarationKind.types
    id := .string "WriteTag" }

theorem ofTable_literal [Unicode.CharacterNames] {tag : String} (htag : tag ≠ "") :
    TagSpec.ofTable [("tag", .string tag), ("literal", .bool true)] = .ok (literalSpec tag) := by
  have hcompile : TagPattern.compile tag true =
      .ok ⟨TagPattern.sourceOf tag true, {}, 1, literalNode tag.toList⟩ :=
    TagPattern.compile_literal htag
  have htagSeverity : Severity.ofValue (.string "info") = .ok .info := by cbv
  have hseverity : Severity.ofValue (.string "error") = .ok .error := by cbv
  have hinput : TagSpec.inputOfTable [("tag", .string tag), ("literal", .bool true)] =
      { tag := .string tag, literal := .bool true } := rfl
  have hreadTag : TagSpec.readTag { tag := .string tag, literal := .bool true } =
      .ok (some ⟨tag, TagPattern.sourceOf tag true, {}, 1, literalNode tag.toList⟩) := by
    simp only [TagSpec.readTag, hcompile]
    rfl
  have hreadFormat : TagSpec.readFormat { tag := .string tag, literal := .bool true } = .ok none :=
    rfl
  have hreadTokens : TagSpec.readTokens { tag := .string tag, literal := .bool true } =
      .ok DeclarationKind.types := rfl
  rw [TagSpec.ofTable, hinput, TagSpec.ofInput, hreadTag, hreadFormat, hreadTokens, htagSeverity,
    hseverity]
  rfl

/-- What is reported for the lines of a block in which a tag occurs. -/
def writtenTags (spec : TagSpec) (path tag : String) (lines : List (List Char)) :
    List Diagnostic :=
  lines.zipIdx.filterMap fun (line, i) =>
    (afterFirst? tag.toList line).map fun rest =>
      { line := i + 1, column := 0, key := .writeTag
        args := [tag, String.ofList (Text.trimStart rest)]
        severity := spec.tagSeverity, check := spec.id, path }

theorem find_literal {lines : List (List Char)} (h : ∀ line ∈ lines, '\n' ∉ line) (tag : String) :
    TagPattern.find ⟨TagPattern.sourceOf tag true, {}, 1, literalNode tag.toList⟩ lines =
      lines.zipIdx.filterMap fun (line, i) =>
        (afterFirst? tag.toList line).map fun rest => ⟨i, Text.trimStart rest⟩ := by
  refine List.filterMap_congr fun entry hentry => ?_
  exact Pattern.findInLine?_literal (h entry.1 (List.fst_mem_of_mem_zipIdx hentry)) tag entry.2

section Visit
variable {body : List (List Char)} {name : List Char}

/-- A match on a line of the block is reported on that line of the text. -/
theorem found_literal (path tag : String) (length : Nat) (kind : DeclarationKind) (name : String)
    (m : TagMatch) (total : Nat) (htotal : total = length + 2) :
    (literalSpec tag).found ⟨tag, TagPattern.sourceOf tag true, {}, 1, literalNode tag.toList⟩
        ⟨kind, name, length + 3, 0⟩ path total m =
      { line := m.lineOffset + 1, column := 0, key := .writeTag
        args := [tag, String.ofList m.content]
        severity := (literalSpec tag).tagSeverity, check := (literalSpec tag).id, path } := by
  have hline : (length + 3 : Int) + m.lineOffset - total = m.lineOffset + 1 := by omega
  simp only [TagSpec.found, literalSpec, TagSpec.diagnosticAt, hline]

theorem map_found_literal (path tag : String) (kind : DeclarationKind) (name : String)
    {lines : List (List Char)} (hlines : ∀ line ∈ lines, '\n' ∉ line) {length : Nat}
    (hlength : lines.length = length + 2) :
    (TagPattern.find ⟨TagPattern.sourceOf tag true, {}, 1, literalNode tag.toList⟩ lines).map
        ((literalSpec tag).found ⟨tag, TagPattern.sourceOf tag true, {}, 1, literalNode tag.toList⟩
          ⟨kind, name, length + 3, 0⟩ path lines.length) =
      writtenTags (literalSpec tag) path tag lines := by
  rw [find_literal hlines, List.map_filterMap, writtenTags]
  refine List.filterMap_congr fun entry _ => ?_
  rw [Option.map_map]
  refine congrArg (Option.map · _) (funext fun rest => ?_)
  exact found_literal path tag length kind name _ lines.length hlength

theorem checkSource_literal (path tag : String) (hbody : ∀ line ∈ body, BodyLine line)
    (hname : AsciiName name) :
    (literalSpec tag).checkSource (Java.Source.ofText path (documentedClass body name)) =
      match writtenTags (literalSpec tag) path tag (blockLines body) with
      | [] => [{ line := body.length + 3, column := 0, key := .missingTag, args := [tag]
                 severity := (literalSpec tag).severity, check := (literalSpec tag).id, path }]
      | reports => reports := by
  have hbefore := Java.javadocBefore?_documentedClass path hbody hname
  have hlines := Java.forall_blockLines (fun line hline => (hbody line hline).no_lineFeed)
    (by simp) (by simp)
  have hreports := map_found_literal path tag .classType (String.ofList name) hlines
    (Java.length_blockLines body)
  have hcovers : (literalSpec tag).covers
      ⟨.classType, String.ofList name, body.length + 3, 0⟩ = true := rfl
  rw [Java.ofText_documentedClass path hbody hname] at hbefore ⊢
  rw [TagSpec.checkSource, List.filter_cons_of_pos hcovers, List.filter_nil, List.flatMap_cons,
    List.flatMap_nil, List.append_nil, TagSpec.visit, ← hreports]
  simp only [literalSpec, hbefore]
  cases TagPattern.find ⟨TagPattern.sourceOf tag true, {}, 1, literalNode tag.toList⟩
      (blockLines body) with
  | nil => rfl
  | cons m found => rfl

theorem writtenTags_eq_nil_iff {spec : TagSpec} {path tag : String} {lines : List (List Char)} :
    writtenTags spec path tag lines = [] ↔ ∀ line ∈ lines, ¬ tag.toList <:+: line := by
  rw [writtenTags, List.filterMap_eq_nil_iff]
  constructor
  · intro h line hline
    obtain ⟨i, hi⟩ := List.mem_iff_getElem?.1 hline
    have hentry := h (line, i) (List.mk_mem_zipIdx_iff_getElem?.2 hi)
    exact Pattern.afterFirst?_eq_none_iff.1 (Option.map_eq_none_iff.1 hentry)
  · intro h entry hentry
    have hline := h entry.1 (List.fst_mem_of_mem_zipIdx hentry)
    exact Option.map_eq_none_iff.2 (Pattern.afterFirst?_eq_none_iff.2 hline)

/-- A check for a literal tag reports each line of the block in which the tag occurs, in order, at
its own line and with what stands behind the first occurrence; if there is none, it reports the tag
as missing, at the class. -/
theorem checkSource_documentedClass [Unicode.CharacterNames] (path : String) {tag : String}
    (htag : tag ≠ "") (hbody : ∀ line ∈ body, BodyLine line) (hname : AsciiName name) :
    ∃ spec, TagSpec.ofTable [("tag", .string tag), ("literal", .bool true)] = .ok spec ∧
      spec.tagSeverity = .info ∧ spec.severity = .error ∧
      ((∃ line ∈ blockLines body, tag.toList <:+: line) →
        spec.checkSource (Java.Source.ofText path (documentedClass body name)) =
          writtenTags spec path tag (blockLines body)) ∧
      ((∀ line ∈ blockLines body, ¬ tag.toList <:+: line) →
        spec.checkSource (Java.Source.ofText path (documentedClass body name)) =
          [{ line := body.length + 3, column := 0, key := .missingTag, args := [tag]
             severity := spec.severity, check := spec.id, path }]) := by
  refine ⟨literalSpec tag, ofTable_literal htag, rfl, rfl, ?_, ?_⟩
  · rintro ⟨line, hline, hoccurs⟩
    rw [checkSource_literal path tag hbody hname]
    split
    · rename_i hnil
      exact absurd hoccurs (writtenTags_eq_nil_iff.1 hnil line hline)
    · rfl
  · intro h
    rw [checkSource_literal path tag hbody hname, writtenTags_eq_nil_iff.2 h]

end Visit

open scoped Unicode.CharacterNames

/-- The lines of a comment in which a tag stands between quotes and a brace. -/
def sampleBody : List (List Char) :=
  [" * \"@x // ' y\x7b".toList, []]

theorem bodyLine_sampleBody : ∀ line ∈ sampleBody, BodyLine line := by
  intro line hline
  rcases List.mem_cons.1 hline with rfl | hline
  · exact ⟨by simp, by simp, by simp [List.infix_cons_iff]⟩
  · rw [List.mem_singleton.1 hline]
    exact ⟨by simp, by simp, by simp⟩

theorem writtenTags_sampleBody (spec : TagSpec) :
    writtenTags spec "" "@x" (blockLines sampleBody) =
      [{ line := 2, column := 0, key := .writeTag, args := ["@x", "// ' y\x7b"]
         severity := spec.tagSeverity, check := spec.id, path := "" }] := by
  cbv

theorem checkSource_documentedClass_sampleBody :
    ("@x" ≠ "" ∧ (∀ line ∈ sampleBody, BodyLine line) ∧ AsciiName "N".toList) ∧
      ∃ spec, TagSpec.ofTable [("tag", .string "@x"), ("literal", .bool true)] = .ok spec ∧
        spec.checkSource (Java.Source.ofText "" (documentedClass sampleBody "N".toList)) =
          [{ line := 2, column := 0, key := .writeTag, args := ["@x", "// ' y\x7b"]
             severity := .info, check := spec.id, path := "" }] := by
  have htag : "@x" ≠ "" := by decide
  have hname : AsciiName "N".toList := ⟨by simp, List.all_eq_true.1 rfl, by simp⟩
  obtain ⟨spec, hspec, hseverity, _, hreports, _⟩ :=
    checkSource_documentedClass "" htag bodyLine_sampleBody hname
  have hoccurs : ∃ line ∈ blockLines sampleBody, "@x".toList <:+: line := by
    refine ⟨_, List.mem_cons_of_mem _ List.mem_cons_self, " * \"".toList, " // ' y\x7b".toList, ?_⟩
    simp
  refine ⟨⟨htag, bodyLine_sampleBody, hname⟩, spec, hspec, ?_⟩
  rw [hreports hoccurs, writtenTags_sampleBody, hseverity]

end JavadocTags
