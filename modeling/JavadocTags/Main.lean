import JavadocTags.CommandLine.Program

/-!
# Running the program

The part of the file system that a command line concerns is read into a file tree before it is
answered, and the one file that the answer may change is written afterwards.
-/
namespace JavadocTags

open CommandLine
open scoped Unicode.CharacterNames

/-- Adds what stands at a location, and where one goes on from there: a directory, a file with its
content, or a link to the place that it leads to in the end. A link that leads nowhere is left
out. -/
def addEntry (tree : FileTree) (location : Location) : IO (FileTree × Location) := do
  let path := (← IO.currentDir) / (Path.absolute location).toText
  let .ok metadata ← path.symlinkMetadata.toBaseIO | return (tree, location)
  if metadata.type == .symlink then
    let .ok place ← (IO.FS.realPath path).toBaseIO | return (tree, location)
    let place := (Path.ofText place.toString).parts
    let linked := tree.insert location (.link (.absolute place))
    return (linked.insert place (← entryAt path), place)
  else
    return (tree.insert location (← entryAt path), location)
where
  /-- The directory or the file at a path. -/
  entryAt path : IO Entry := do
    if ← path.isDir then return .directory
    else return .file (← IO.FS.readBinFile path).toList

/-- Adds everything below the directory at a location, as far as no link is in the way. -/
partial def addBelow (tree : FileTree) (location : Location) : IO FileTree := do
  let path := (← IO.currentDir) / (Path.absolute location).toText
  let mut tree := tree
  for entry in ← path.readDir do
    let inner := location ++ [entry.fileName]
    tree := (← addEntry tree inner).1
    if tree.get? inner = some .directory then
      tree ← addBelow tree inner
  return tree

/-- Adds the directories that a path leads through and what it leads to. -/
def addPath (cwd : Location) (tree : FileTree) (path : Path) : IO FileTree := do
  let mut location := path.base cwd
  let mut tree := tree
  for name in path.parts do
    if name = ".." then
      location := location.dropLast
    else
      (tree, location) ← addEntry tree (location ++ [name])
  return tree

/-- Adds what a path leads to and everything below it. -/
def addWhole (cwd : Location) (tree : FileTree) (path : Path) : IO FileTree := do
  let tree ← addPath cwd tree path
  match tree.find? cwd path with
  | some (location, .directory) => addBelow tree location
  | _ => return tree

def readEnvironment : IO (List (String × String)) := do
  let listed ← (IO.FS.readBinFile "/proc/self/environ").toBaseIO
  match listed with
  | .error _ => return []
  | .ok bytes =>
      let text := (Text.Utf8.decode bytes.toList).map (·.getD Text.Utf8.replacement)
      let entries := text.splitOn '\x00'
      return entries.filterMap fun entry =>
        match entry.dropWhile (· ≠ '=') with
        | [] => none
        | _ :: value =>
            some (String.ofList (entry.takeWhile (· ≠ '=')), String.ofList value)

/-- Answers a command line. -/
def runProgram (words : List String) : IO UInt32 := do
  let request := readRequest words
  let cwd := (Path.ofText (toString (← IO.currentDir))).parts
  let near ← (configPaths request cwd).foldlM (addPath cwd) ((FileTree.mk []).insert cwd .directory)
  let s : Surroundings := ⟨near, cwd, ← readEnvironment, Toml.standard⟩
  let tree ← (sourcePaths request s).foldlM (addWhole cwd) near
  let (answer, after) := answerRequest request { s with tree }
  if after ≠ tree then
    if let .ok content := after.read cwd (.named Config.fileName) then
      IO.FS.writeBinFile ((← IO.currentDir) / Config.fileName) ⟨content.toArray⟩
  (← IO.getStdout).putStr answer.out
  (← IO.getStderr).putStr answer.err
  match answer.status with
  | .ok status => return status.toUInt32
  | .error failure =>
      (← IO.getStderr).putStr ("Error: " ++ failure.message ++ "\n")
      return Answer.negative.toUInt32

end JavadocTags

def main (words : List String) : IO UInt32 :=
  JavadocTags.runProgram words
