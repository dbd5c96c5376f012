import JavadocTags.Files.Glob
import JavadocTags.Files.Tree

/-!
# Collecting files

The files to check are those that are named and those below the directories that are named. Below a
directory a file is taken when its name matches a glob of the files to include and what leads to it
from there matches none of those to exclude. A link is taken for what it leads to, but the directory
that a link below a directory leads to is not searched. No file is taken twice; the path under which
it came first stays. Two slashes in front of a path lead to the same place as one.
-/
namespace JavadocTags

/-- The globs that decide on the files below a directory. -/
structure FileFilter where
  includes : List String
  excludes : List String
deriving DecidableEq, Repr

def FileFilter.accepts (filter : FileFilter) (names : Location) : Bool :=
  filter.includes.any (Glob.matchesName · (names.getLastD ""))
    && !filter.excludes.any (Glob.matchesName · (String.intercalate "/" names))

/-- A file with the path under which it was found, and the path of the place where it is. -/
structure FoundFile where
  path : Path
  place : Path
deriving DecidableEq, Repr

namespace FileTree

/-- The file that a path leads to, if it leads to one. -/
def fileAt? (tree : FileTree) (cwd : Location) (path : Path) : Option FoundFile :=
  match tree.find? cwd path with
  | some (location, .file _) => some ⟨path, .absolute location⟩
  | _ => none

/-- The files that a path stands for. -/
def filesAt (tree : FileTree) (cwd : Location) (filter : FileFilter) (path : Path) :
    List FoundFile :=
  match tree.find? cwd path with
  | some (location, .directory) =>
      ((tree.namesBelow location).filter filter.accepts).filterMap fun names =>
        tree.fileAt? cwd (path.below names)
  | _ => (tree.fileAt? cwd path).toList

/-- The files at whose place there was none before. -/
def firstAtPlace (seen : List Path) : List FoundFile → List FoundFile
  | [] => []
  | file :: rest =>
      if seen.contains file.place then firstAtPlace seen rest
      else file :: firstAtPlace (file.place :: seen) rest

/-- The files that paths stand for, each of them once. -/
def collect (tree : FileTree) (cwd : Location) (filter : FileFilter) (paths : List Path) :
    List FoundFile :=
  firstAtPlace [] (paths.flatMap (tree.filesAt cwd filter))

def missing (tree : FileTree) (cwd : Location) (paths : List Path) : List Path :=
  paths.filter fun path => !tree.exists cwd path

end FileTree

end JavadocTags
