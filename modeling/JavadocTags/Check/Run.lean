import JavadocTags.Check.Visit
import JavadocTags.Files.Collect
import JavadocTags.Report.Collector
import JavadocTags.Text.Utf8

/-!
# Checking files

Every check runs over every file, file by file. A file that cannot be read counts as one without
declarations and is reported with the reason.
-/
namespace JavadocTags

def FileTree.javaSource (tree : FileTree) (cwd : Location) (path : Path) :
    Except FileFault Java.Source :=
  (tree.read cwd path).map fun content =>
    Java.Source.ofText path.toText (Text.Utf8.lenient content)

def checkFile (specs : List TagSpec) (tree : FileTree) (cwd : Location) (path : Path) :
    FileResult :=
  match tree.javaSource cwd path with
  | .error fault => { path := path.toText, error := some (fault.message path) }
  | .ok source =>
      { path := path.toText
        declarations := source.declarations.length
        diagnostics := specs.flatMap (·.checkSource source) }

/-- Checks a file, and hands the diagnostics to a receiver. -/
def checkFileInto {m : Type → Type} [Monad m] (specs : List TagSpec) (tree : FileTree)
    (cwd : Location) (path : Path) (sink : Option (Sink m)) : m FileResult :=
  match tree.javaSource cwd path with
  | .error fault => return { path := path.toText, error := some (fault.message path) }
  | .ok source => do
      let diagnostics ← Report.emitEach (fun spec => spec.checkSourceInto source sink) specs
      return { path := path.toText, declarations := source.declarations.length, diagnostics }

/-- What is logged when a file is checked: the number of its declarations, and for each check those
without Javadoc. -/
def fileRecords (specs : List TagSpec) (tree : FileTree) (cwd : Location) (path : Path) :
    List LogRecord :=
  match tree.javaSource cwd path with
  | .error _ => []
  | .ok source =>
      let counted : LogRecord :=
        ⟨.debug, "tagcheck.parsers.java",
          source.path ++ ": " ++ toString source.declarations.length ++ " declarations"⟩
      counted :: specs.flatMap fun spec =>
        (spec.undocumented source).map fun d =>
          ⟨.debug, "tagcheck.core.check",
            source.path ++ ":" ++ toString d.line ++ ": no Javadoc before " ++ d.name⟩

def checkFiles (specs : List TagSpec) (tree : FileTree) (cwd : Location)
    (files : List FoundFile) : List FileResult :=
  files.map fun file => checkFile specs tree cwd file.path

def checkFilesInto {m : Type → Type} [Monad m] (specs : List TagSpec) (tree : FileTree)
    (cwd : Location) (files : List FoundFile) (sink : Option (Sink m)) : m (List FileResult) :=
  files.mapM fun file => checkFileInto specs tree cwd file.path sink

namespace Report

/-- All diagnostics of a run, file by file. -/
def collected (results : List FileResult) : List Diagnostic :=
  results.flatMap (·.diagnostics)

end Report

end JavadocTags
