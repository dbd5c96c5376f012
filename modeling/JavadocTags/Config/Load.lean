import JavadocTags.Config.Environment
import JavadocTags.Files.Tree
import JavadocTags.Text.Utf8
import JavadocTags.Toml.Format

/-!
# Loading the configuration

The configuration file is looked for in the working directory and then in the directories above it,
up to the first one that holds a repository. What it says is laid over the defaults, and variables
of the environment over both.
-/
namespace JavadocTags.Config

/-- The name that marks the top directory of a repository. -/
def repositoryMark : String := ".git"

/-- The nearest configuration file, from a directory upwards. The names that lead to the directory
are given from the last one. -/
def nearest? (tree : FileTree) : List String → Option Location
  | [] => if tree.isFile [] (.named fileName) then some [fileName] else none
  | name :: outer =>
      let directory := (name :: outer).reverse
      if tree.isFile directory (.named fileName) then some (directory ++ [fileName])
      else if tree.exists directory (.named repositoryMark) then none
      else nearest? tree outer

/-- The path of the configuration file that holds for a directory. -/
def find? (tree : FileTree) (directory : Location) : Option Path :=
  (nearest? tree directory.reverse).map .absolute

inductive LoadFault where
  | notFound (path : Path)
  | unreadable (path : Path) (fault : FileFault)
  | failed (failure : Failure)
deriving Repr

def readFile (toml : Toml.Format) (tree : FileTree) (cwd : Location) (path : Path) :
    Except LoadFault Table :=
  match tree.read cwd path with
  | .error fault => .error (.unreadable path fault)
  | .ok content =>
      match Text.Utf8.strict? content with
      | none => .error (.failed .notUtf8)
      | some text =>
          match toml.read? text with
          | none => .error (.failed (.refused .badToml))
          | some table => .ok table

/-- A configuration, or why there is none, with what is logged on the way. -/
structure Loaded where
  records : List LogRecord
  outcome : Except LoadFault Table

/-- The configuration of what a user says and of variables. -/
def effective (user : Table) (environment : List (String × String)) : Except Failure Table :=
  applyEnvironment (Table.merge defaults user) environment

/-- Loads the configuration, from a file if there is one. -/
def load (toml : Toml.Format) (tree : FileTree) (cwd : Location)
    (environment : List (String × String)) : Option Path → Loaded
  | none =>
      ⟨environmentRecords defaults environment, (effective [] environment).mapError .failed⟩
  | some path =>
      let note : LogRecord := ⟨.debug, logPart, "Loading config from " ++ path.toText⟩
      match readFile toml tree cwd path with
      | .error fault => ⟨[note], .error fault⟩
      | .ok user =>
          ⟨note :: environmentRecords (Table.merge defaults user) environment,
            (effective user environment).mapError .failed⟩

end JavadocTags.Config
