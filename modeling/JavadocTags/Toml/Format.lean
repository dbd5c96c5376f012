import JavadocTags.Failure
import JavadocTags.Text.Lines
import JavadocTags.Toml.Reader
import JavadocTags.Toml.Writer

/-!
# The TOML of a configuration

The program takes how TOML is read and written from outside: `Format` holds the three things that it
asks for, and nothing is assumed of them. `standard` is a format to run the program with.
-/
namespace JavadocTags.Toml

/-- How TOML is read and written: the table of a text, the text of a table, and the text of a new
configuration file. -/
structure Format where
  read? : List Char → Option Table
  write : Table → Except Failure String
  starter : String

/-- The text of a table. A null and a number of too many digits have no text. -/
def standardText (config : Table) : Except Failure String :=
  match write? config with
  | none => .error .noTomlForm
  | some text => if (Value.table config).isOverlong then .error .integerTooLong else .ok text

/-- The text of a new configuration file: the defaults, written out, and two checks. -/
def standardStarter : String :=
  Text.unlines
    ["# tagcheck configuration",
     "",
     "[scan]",
     "paths = [\".\"]",
     "include = [\"*.java\"]",
     "exclude = [] # glob patterns relative to each path, e.g. \"generated/**\"",
     "",
     "[output]",
     "format = \"text\" # text or json",
     "show_ignored = false",
     "",
     "[[checks]]",
     "id = \"author\"",
     "tag = \"@author\"",
     "tag_format = \"\\\\S\"",
     "tag_severity = \"info\"",
     "severity = \"error\"",
     "tokens = [\"class\", \"interface\", \"enum\", \"annotation\"]",
     "",
     "[[checks]]",
     "# warn where @incomplete is found, stay quiet when it is not",
     "id = \"incomplete\"",
     "tag = \"@incomplete\"",
     "tag_format = \"\\\\S\"",
     "severity = \"ignore\"",
     "tag_severity = \"warning\""]

/-- A format to run the program with. -/
def standard : Format :=
  ⟨read?, standardText, standardStarter⟩

end JavadocTags.Toml
