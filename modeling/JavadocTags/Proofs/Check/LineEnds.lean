import Mathlib
import JavadocTags.Proofs.Pattern.TagSearch
import JavadocTags.Proofs.Text.LineEnds
import JavadocTags.Check.Run

/-!
# Line ends make no difference

A source is read from the text with unified line ends only, and a file from its characters only. So
two texts, or two files, that differ in how their lines end have the same lines, Javadoc blocks and
declarations, and every check reports the same on them.
-/
namespace JavadocTags

open Java (Source)
open Text (oneFeedEach withLineEnds lineEnds)

@[simp] theorem Java.ofText_oneFeedEach (path : String) (text : List Char) :
    Source.ofText path (oneFeedEach '\r' '\n' text) = Source.ofText path text := by
  rw [Source.ofText, Source.ofText, Text.unifyLineEnds_oneFeedEach,
    Text.unifyLineEnds_eq_oneFeedEach]

theorem Java.ofText_withLineEnds (path : String) {text : List Char} (h : '\r' ∉ text)
    {lineEnd : List Char} (hend : lineEnd ∈ lineEnds '\r' '\n') :
    Source.ofText path (withLineEnds '\n' lineEnd text) = Source.ofText path text := by
  rw [← ofText_oneFeedEach, Text.oneFeedEach_withLineEnds (by decide) h hend]

/-- Checks find the same in files that differ in their line ends. -/
theorem checkFile_of_sameLines {tree other : FileTree} {cwd : Location} {path : Path}
    {bytes otherBytes : List UInt8} (hread : tree.read cwd path = .ok bytes)
    (hother : other.read cwd path = .ok otherBytes)
    (hlines : oneFeedEach 0x0D 0x0A bytes = oneFeedEach 0x0D 0x0A otherBytes)
    (specs : List TagSpec) :
    checkFile specs other cwd path = checkFile specs tree cwd path := by
  have htext : Text.Utf8.lenient otherBytes = Text.Utf8.lenient bytes := by
    rw [← Text.Utf8.lenient_oneFeedEach, ← hlines, Text.Utf8.lenient_oneFeedEach]
  have hsource : other.javaSource cwd path = tree.javaSource cwd path := by
    rw [FileTree.javaSource, FileTree.javaSource, hread, hother]
    exact congrArg (fun text => Except.ok (Source.ofText path.toText text)) htext
  rw [checkFile, checkFile, hsource]

/-- A text is read as the one in which each pair, each other carriage return and each other line
feed, from left to right, is one line feed. A file without carriage returns, and the ones with pairs
or carriage returns in place of its line feeds, give the same reports for all checks. -/
theorem lineEnds_immaterial (path : String) (text : List Char) :
    (let source := Source.ofText path text
      let unified := Source.ofText path (oneFeedEach '\r' '\n' text)
      source.lines = unified.lines ∧ source.javadocs = unified.javadocs ∧
      (∀ line, source.javadocBefore? line = unified.javadocBefore? line) ∧
      source.declarations = unified.declarations ∧
      ∀ spec : TagSpec, spec.checkSource source = spec.checkSource unified) ∧
    ('\r' ∉ text → ∀ lineEnd ∈ lineEnds '\r' '\n', ∀ spec : TagSpec,
      spec.checkSource (Source.ofText path (withLineEnds '\n' lineEnd text)) =
        spec.checkSource (Source.ofText path text)) ∧
    ∀ (tree other : FileTree) (cwd : Location) (file : Path) (bytes : List UInt8),
      tree.read cwd file = .ok bytes → 0x0D ∉ bytes → ∀ lineEnd ∈ lineEnds 0x0D 0x0A,
        other.read cwd file = .ok (withLineEnds 0x0A lineEnd bytes) →
          ∀ specs, checkFile specs other cwd file = checkFile specs tree cwd file := by
  refine ⟨?_, ?_, ?_⟩
  · rw [Java.ofText_oneFeedEach]
    exact ⟨rfl, rfl, fun _ => rfl, rfl, fun _ => rfl⟩
  · intro hreturn lineEnd hend spec
    rw [Java.ofText_withLineEnds path hreturn hend]
  · intro tree other cwd file bytes hread hreturn lineEnd hend hother specs
    refine checkFile_of_sameLines hread hother ?_ specs
    rw [Text.oneFeedEach_withLineEnds (by decide) hreturn hend,
      Text.oneFeedEach_of_not_mem hreturn]

def mixedLines : List Char :=
  "/**\r\r\n * @x 1\n */\rclass A \x7b\x7d".toList

def feedLines : List Char :=
  "/**\n\n * @x 1\n */\nclass A \x7b\x7d".toList

def asciiBytes (text : List Char) : List UInt8 :=
  text.map fun c => UInt8.ofNat c.toNat

def oneFile (bytes : List UInt8) : FileTree :=
  ⟨[(["A.java"], .file bytes)]⟩

/-- An enumeration below an empty line. -/
def enumBytes : List UInt8 :=
  asciiBytes "\nenum B \x7b\x7d\n".toList

def pairedBytes : List UInt8 :=
  asciiBytes "\r\nenum B \x7b\x7d\r\n".toList

def checkOf (tag : String) : TagSpec :=
  { tag := some ⟨tag, TagPattern.literal tag⟩, format := none, tagSeverity := .info
    severity := .error, tokens := DeclarationKind.types, id := .string tag }

theorem declarations_feedLines :
    (Source.ofText "" feedLines).declarations = [⟨.classType, "A", 5, 0⟩] := by
  cbv

theorem javaSource_enumBytes : (oneFile enumBytes).javaSource [] ⟨.here, ["A.java"]⟩ =
    .ok (Source.ofText "A.java" "\nenum B \x7b\x7d\n".toList) := by
  cbv

theorem checkSource_enum :
    (checkOf "@y").checkSource (Source.ofText "A.java" "\nenum B \x7b\x7d\n".toList) =
      [{ line := 2, column := 0, key := .missingTag, args := ["@y"], severity := .error
         check := .string "@y", path := "A.java" }] := by
  cbv

theorem lineEnds_immaterial_mixedLines :
    (Source.ofText "" mixedLines).declarations = [⟨.classType, "A", 5, 0⟩] ∧
      '\r' ∉ feedLines ∧ ['\r'] ∈ lineEnds '\r' '\n' ∧
      (checkOf "@x").checkSource (Source.ofText "" (withLineEnds '\n' ['\r'] feedLines)) =
        (checkOf "@x").checkSource (Source.ofText "" feedLines) ∧
      (oneFile enumBytes).read [] ⟨.here, ["A.java"]⟩ = .ok enumBytes ∧ 0x0D ∉ enumBytes ∧
      [0x0D, 0x0A] ∈ lineEnds (0x0D : UInt8) 0x0A ∧
      (oneFile pairedBytes).read [] ⟨.here, ["A.java"]⟩ =
        .ok (withLineEnds 0x0A [0x0D, 0x0A] enumBytes) ∧
      (checkFile [checkOf "@y"] (oneFile pairedBytes) [] ⟨.here, ["A.java"]⟩).diagnostics =
        [{ line := 2, column := 0, key := .missingTag, args := ["@y"], severity := .error
           check := .string "@y", path := "A.java" }] := by
  have hunified : oneFeedEach '\r' '\n' mixedLines = feedLines := by decide
  have hreturn : '\r' ∉ feedLines := by decide
  have hend : ['\r'] ∈ lineEnds '\r' '\n' := by decide
  have hread : (oneFile enumBytes).read [] ⟨.here, ["A.java"]⟩ = .ok enumBytes := rfl
  have hbytes : 0x0D ∉ enumBytes := by decide
  have hpair : [0x0D, 0x0A] ∈ lineEnds (0x0D : UInt8) 0x0A := by decide
  have hother : (oneFile pairedBytes).read [] ⟨.here, ["A.java"]⟩ =
      .ok (withLineEnds 0x0A [0x0D, 0x0A] enumBytes) := rfl
  obtain ⟨⟨_, _, _, hmixed, _⟩, _⟩ := lineEnds_immaterial "" mixedLines
  obtain ⟨_, htext, hfile⟩ := lineEnds_immaterial "" feedLines
  refine ⟨?_, hreturn, hend, htext hreturn _ hend _, hread, hbytes, hpair, hother, ?_⟩
  · rw [hmixed, hunified, declarations_feedLines]
  · rw [hfile _ _ _ _ _ hread hbytes _ hpair hother, checkFile, javaSource_enumBytes]
    simp only [List.flatMap_cons, List.flatMap_nil, List.append_nil, checkSource_enum]

end JavadocTags
