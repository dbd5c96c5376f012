import JavadocTags.CommandLine.Manual
import JavadocTags.CommandLine.Reading
import JavadocTags.Config.Settings
import JavadocTags.Files.Path
import JavadocTags.Unicode.Printable

/-!
# Requests

What a command line asks for: a text to be shown, or a command to be run with its options. A
command line that is misused asks for nothing; it is answered by the usage and what is wrong.
-/
namespace JavadocTags.CommandLine

structure CheckOptions where
  paths : List Path := []
  tag : Option String := none
  tagFormat : Option String := none
  tagSeverity : String := "info"
  severity : String := "error"
  tokens : Option String := none
  literal : Bool := false
  format : Option Config.ReportFormat := none
  showIgnored : Bool := false
deriving DecidableEq, Repr

/-- What is shown of the configuration: the settings, or the path of its file. -/
inductive ConfigView where
  | settings
  | path
deriving DecidableEq, Repr

inductive Command where
  | check (options : CheckOptions)
  | init (force : Bool)
  | config (view : ConfigView)
deriving DecidableEq, Repr

structure GeneralOptions where
  config : Option Path := none
  verbose : Bool := false
  quiet : Bool := false
deriving DecidableEq, Repr

inductive Request where
  | show (text : String)
  | misused (manual : Manual) (misuse : Misuse)
  | run (options : GeneralOptions) (command : Command)

def versionText : String := "tagcheck 0.1.0\n"

def Misuse.message : Misuse → String
  | ambiguous word names =>
      "ambiguous option: " ++ word ++ " could match " ++ String.intercalate ", " names
  | needlessValue title value =>
      "argument " ++ title ++ ": ignored explicit argument " ++ quote value
  | missingValue title => "argument " ++ title ++ ": expected one argument"
  | badChoice title value choices =>
      "argument " ++ title ++ ": invalid choice: " ++ quote value ++ " (choose from "
        ++ String.intercalate ", " (choices.map quote) ++ ")"
  | missingOperand title => "the following arguments are required: " ++ title
  | unread words => "unrecognized arguments: " ++ String.intercalate " " words
where
  /-- A text between quotes. -/
  quote (text : String) : String := String.ofList (Text.quoted text.toList)

def misuseText (manual : Manual) (misuse : Misuse) : String :=
  manual.usageText ++ manual.program ++ ": error: " ++ misuse.message ++ "\n"

/-! ## Grammars -/

inductive GeneralSwitch where
  | help
  | version
  | config
  | verbose
  | quiet
deriving DecidableEq, Repr

inductive CheckSwitch where
  | help
  | tag
  | tagFormat
  | tagSeverity
  | severity
  | tokens
  | literal
  | format
  | showIgnored
deriving DecidableEq, Repr

inductive InitSwitch where
  | help
  | force
deriving DecidableEq, Repr

inductive ConfigSwitch where
  | help
deriving DecidableEq, Repr

def generalGrammar : Grammar GeneralSwitch where
  switches :=
    [⟨.help, ["-h", "--help"], .nothing⟩,
     ⟨.version, ["--version"], .nothing⟩,
     ⟨.config, ["--config"], .text⟩,
     ⟨.verbose, ["-v", "--verbose"], .nothing⟩,
     ⟨.quiet, ["-q", "--quiet"], .nothing⟩]
  operands := .command "command" ["check", "init", "config"]

def checkGrammar : Grammar CheckSwitch where
  switches :=
    [⟨.help, ["-h", "--help"], .nothing⟩,
     ⟨.tag, ["--tag"], .text⟩,
     ⟨.tagFormat, ["--tag-format"], .text⟩,
     ⟨.tagSeverity, ["--tag-severity"], .oneOf (Severity.all.map (·.name))⟩,
     ⟨.severity, ["--severity"], .oneOf (Severity.all.map (·.name))⟩,
     ⟨.tokens, ["--tokens"], .text⟩,
     ⟨.literal, ["--literal"], .nothing⟩,
     ⟨.format, ["--format"], .oneOf ["text", "json"]⟩,
     ⟨.showIgnored, ["--show-ignored"], .nothing⟩]
  operands := .many

def initGrammar : Grammar InitSwitch where
  switches := [⟨.help, ["-h", "--help"], .nothing⟩, ⟨.force, ["--force"], .nothing⟩]
  operands := .none

def configGrammar : Grammar ConfigSwitch where
  switches := [⟨.help, ["-h", "--help"], .nothing⟩]
  operands := .one "config_action" ["show", "path"]

/-! ## Reading -/

/-- Reads a command line event by event, unless an event asks for a text to be shown. -/
def interpret {κ α : Type} (step : α → Event κ → Except String α) (start : α)
    (reading : Reading κ) (manual : Manual) : Except Request α :=
  match reading.events.foldlM step start with
  | .error text => .error (.show text)
  | .ok final =>
      match reading.misuse with
      | some misuse => .error (.misused manual misuse)
      | none => .ok final

def checkStep (options : CheckOptions) : Event CheckSwitch → Except String CheckOptions
  | .operands values => .ok { options with paths := values.map Path.ofText }
  | .switch ⟨key, _, _⟩ value =>
      match key with
      | .help => .error Manual.check.helpText
      | .tag => .ok { options with tag := value }
      | .tagFormat => .ok { options with tagFormat := value }
      | .tagSeverity => .ok { options with tagSeverity := value.getD "" }
      | .severity => .ok { options with severity := value.getD "" }
      | .tokens => .ok { options with tokens := value }
      | .literal => .ok { options with literal := true }
      | .format => .ok { options with format := value.bind Config.ReportFormat.ofName? }
      | .showIgnored => .ok { options with showIgnored := true }

def initStep (force : Bool) : Event InitSwitch → Except String Bool
  | .operands _ => .ok force
  | .switch ⟨key, _, _⟩ _ =>
      match key with
      | .help => .error Manual.init.helpText
      | .force => .ok true

def configStep (_ : ConfigView) : Event ConfigSwitch → Except String ConfigView
  | .operands values => .ok (if values = ["path"] then .path else .settings)
  | .switch ⟨key, _, _⟩ _ =>
      match key with
      | .help => .error Manual.config.helpText

/-- The command of a name and the words after it, with the words left over; without a name there is
no command. -/
def readCommand : List String → Except Request (Option Command × List String)
  | "check" :: texts => do
      let reading := checkGrammar.read texts
      let options ← interpret checkStep {} reading Manual.check
      return (some (.check options), reading.unread)
  | "init" :: texts => do
      let reading := initGrammar.read texts
      let force ← interpret initStep false reading Manual.init
      return (some (.init force), reading.unread)
  | "config" :: texts => do
      let reading := configGrammar.read texts
      let view ← interpret configStep .settings reading Manual.config
      return (some (.config view), reading.unread)
  | _ => .ok (none, [])

/-- The options for every command, and the words of the command. -/
structure GeneralReading where
  options : GeneralOptions := {}
  command : List String := []

def generalStep (read : GeneralReading) : Event GeneralSwitch → Except String GeneralReading
  | .operands values => .ok { read with command := values }
  | .switch ⟨key, _, _⟩ value =>
      let options := read.options
      match key with
      | .help => .error Manual.general.helpText
      | .version => .error versionText
      | .config => .ok { read with options := { options with config := value.map Path.ofText } }
      | .verbose => .ok { read with options := { options with verbose := true } }
      | .quiet => .ok { read with options := { options with quiet := true } }

/-- What a command line asks for. Without a command it asks for help. -/
def readRequest (texts : List String) : Request :=
  let reading := generalGrammar.read texts
  let outcome : Except Request Request := do
    let general ← interpret generalStep {} reading Manual.general
    let (command, unread) ← readCommand general.command
    match reading.unread ++ unread, command with
    | [], some command => return .run general.options command
    | [], none => return .show Manual.general.helpText
    | words, _ => return .misused Manual.general (.unread words)
  match outcome with
  | .ok request => request
  | .error request => request

end JavadocTags.CommandLine
