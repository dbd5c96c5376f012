import JavadocTags.Files.Path
import JavadocTags.Unicode.Printable

/-!
# File trees

A file tree says which files, directories and symbolic links there are. A location is the list of
the names that lead to it from the root, which always is a directory. Walking a path goes through
existing directories only, also where it leaves one again by `..`; where it comes to a link, it goes
on along the target of the link. The last name of a path may stand for nothing yet.
-/
namespace JavadocTags

/-- The names that lead from the root to a file or a directory. -/
abbrev Location := List String

inductive Entry where
  | directory
  | file (content : List UInt8)
  | link (target : Path)
deriving DecidableEq, Repr

structure FileTree where
  entries : List (Location × Entry)
deriving DecidableEq, Repr

/-- Why a file can be neither read nor written. -/
inductive FileFault where
  | missing
  | notDirectory
  | isDirectory
  | tooManyLinks
deriving DecidableEq, Repr

namespace FileFault

def number : FileFault → Nat
  | missing => 2
  | notDirectory => 20
  | isDirectory => 21
  | tooManyLinks => 40

def text : FileFault → String
  | missing => "No such file or directory"
  | notDirectory => "Not a directory"
  | isDirectory => "Is a directory"
  | tooManyLinks => "Too many levels of symbolic links"

def message (fault : FileFault) (path : Path) : String :=
  "[Errno " ++ toString fault.number ++ "] " ++ fault.text ++ ": "
    ++ String.ofList (Text.quoted path.toText.toList)

end FileFault

namespace FileTree

def get? (tree : FileTree) : Location → Option Entry
  | [] => some .directory
  | location => tree.entries.lookup location

/-- Goes through names one after the other, and leaves it to `follow` to go on behind a link. -/
def walkWith (tree : FileTree) (follow : Location → List String → Except FileFault Location)
    (location : Location) : List String → Except FileFault Location
  | [] => .ok location
  | name :: rest =>
      match tree.get? location with
      | none => .error .missing
      | some .directory =>
          if name = ".." then tree.walkWith follow location.dropLast rest
          else
            match tree.get? (location ++ [name]) with
            | some (.link target) => follow (target.base location) (target.parts ++ rest)
            | _ => tree.walkWith follow (location ++ [name]) rest
      | some _ => .error .notDirectory

/-- Goes through names one after the other, along at most so many links. -/
def walk (tree : FileTree) : Nat → Location → List String → Except FileFault Location
  | 0 => tree.walkWith fun _ _ => .error .tooManyLinks
  | links + 1 => tree.walkWith (tree.walk links)

/-- The greatest number of links on the way of a path. -/
def linkLimit : Nat := 40

/-- The location that a path leads to from a working directory. -/
def locate (tree : FileTree) (cwd : Location) (path : Path) : Except FileFault Location :=
  tree.walk linkLimit (path.base cwd) path.parts

/-- What a path leads to, and where that is. -/
def find? (tree : FileTree) (cwd : Location) (path : Path) : Option (Location × Entry) :=
  match tree.locate cwd path with
  | .ok location => (tree.get? location).map fun entry => (location, entry)
  | .error _ => none

/-- Whether a path leads to a file or a directory. -/
def «exists» (tree : FileTree) (cwd : Location) (path : Path) : Bool :=
  (tree.find? cwd path).isSome

/-- Whether a path leads to a file. -/
def isFile (tree : FileTree) (cwd : Location) (path : Path) : Bool :=
  match tree.find? cwd path with
  | some (_, .file _) => true
  | _ => false

def read (tree : FileTree) (cwd : Location) (path : Path) : Except FileFault (List UInt8) := do
  let location ← tree.locate cwd path
  match tree.get? location with
  | some (.file content) => return content
  | some .directory => throw .isDirectory
  | _ => throw .missing

/-- What leads from a directory to a location below it. -/
def relative? : Location → Location → Option Location
  | [], location => some location
  | _ :: _, [] => none
  | a :: as, b :: bs => if a = b then relative? as bs else none

/-- What leads to the entries at any depth below a directory, in the order of the names. -/
def namesBelow (tree : FileTree) (directory : Location) : List Location :=
  (tree.entries.filterMap fun entry => relative? directory entry.1).mergeSort Path.partsLe

/-- Puts an entry at a location, in place of the one that stands there. -/
def put (location : Location) (entry : Entry) : List (Location × Entry) → List (Location × Entry)
  | [] => [(location, entry)]
  | (l, e) :: rest =>
      if l = location then (l, entry) :: rest else (l, e) :: put location entry rest

def write (tree : FileTree) (cwd : Location) (path : Path) (content : List UInt8) :
    Except FileFault FileTree := do
  let location ← tree.locate cwd path
  match tree.get? location with
  | some .directory => throw .isDirectory
  | some (.link _) => throw .tooManyLinks
  | _ => return ⟨put location (.file content) tree.entries⟩

/-- The locations above a location, the root apart, from the outermost one. -/
def above (location : Location) : List Location :=
  (List.range location.length).filterMap fun n => if n = 0 then none else some (location.take n)

/-- Makes the directory at a location unless something stands there. -/
def makeDirectory (tree : FileTree) (location : Location) : FileTree :=
  match tree.get? location with
  | some _ => tree
  | none => ⟨tree.entries ++ [(location, .directory)]⟩

/-- Puts an entry at a location and makes the directories above it. -/
def insert (tree : FileTree) (location : Location) (entry : Entry) : FileTree :=
  let made := (above location).foldl makeDirectory tree
  ⟨put location entry made.entries⟩

end FileTree

end JavadocTags
