import JavadocTags.CommandLine.Check

/-!
# The program

A command line is read and answered. Only the command that writes a configuration file changes the
file tree, and only by that file.
-/
namespace JavadocTags.CommandLine

def answerConfig (options : GeneralOptions) (view : ConfigView) (s : Surroundings) : Answer :=
  match view with
  | .path =>
      match configFile? options s with
      | none => .complaint Answer.negative "No config file found (using defaults)"
      | some path => { status := .ok Answer.success, out := path.toText ++ "\n" }
  | .settings =>
      withConfig options s fun config =>
        match s.toml.write config with
        | .error failure => { status := .error failure }
        | .ok text => { status := .ok Answer.success, out := text }

/-- The location of the configuration file in a directory. -/
def configIn (directory : Location) : Location :=
  directory ++ [Config.fileName]

/-- Answers a request to write a configuration file, with the file tree after it. Where a link
stands in its place, the file that the link leads to is written. -/
def answerInit (options : GeneralOptions) (force : Bool) (s : Surroundings) :
    Answer × FileTree :=
  let shown := (Path.absolute (configIn s.cwd)).toText
  if s.tree.exists s.cwd (.named Config.fileName) && !force then
    (.complaint Answer.negative
      ("Error: " ++ shown ++ " already exists (use --force to overwrite)"), s.tree)
  else
    match s.tree.write s.cwd (.named Config.fileName) s.toml.starter.toUTF8.toList with
    | .error fault => ({ status := .error (.unwritable fault) }, s.tree)
    | .ok written =>
        ({ status := .ok Answer.success
           out := if options.quiet then "" else "Created " ++ shown ++ "\n" }, written)

def answerCommand [Unicode.CharacterNames] (options : GeneralOptions) (command : Command)
    (s : Surroundings) : Answer × FileTree :=
  match command with
  | .check check => (answerCheck options check s, s.tree)
  | .init force => answerInit options force s
  | .config view => (answerConfig options view s, s.tree)

def answerRequest [Unicode.CharacterNames] (request : Request) (s : Surroundings) :
    Answer × FileTree :=
  match request with
  | .show text => ({ status := .ok Answer.success, out := text }, s.tree)
  | .misused manual misuse =>
      ({ status := .ok Answer.unusable, err := misuseText manual misuse }, s.tree)
  | .run options command => answerCommand options command s

/-- Answers the words of a command line, with the file tree after it. -/
def run [Unicode.CharacterNames] (s : Surroundings) (words : List String) : Answer × FileTree :=
  answerRequest (readRequest words) s

/-- The paths that the configuration of a request depends on. -/
def configPaths (request : Request) (cwd : Location) : List Path :=
  let near := (FileTree.above cwd ++ [cwd, []]).flatMap fun directory =>
    [Path.absolute (directory ++ [Config.fileName]),
      Path.absolute (directory ++ [Config.repositoryMark])]
  match request with
  | .run options _ => near ++ options.config.toList
  | _ => []

/-- The paths of the files that a request is about, once its configuration is at hand. -/
def sourcePaths [Unicode.CharacterNames] (request : Request) (s : Surroundings) : List Path :=
  match request with
  | .run options (.check check) =>
      match (loadConfig options s).outcome with
      | .error _ => []
      | .ok config =>
          match planFor check config with
          | .error _ => []
          | .ok plan => plan.paths
  | _ => []

end JavadocTags.CommandLine
