import JavadocTags.Text.Lines

/-!
# Manuals

The usage and help texts of the program and of its commands.
-/
namespace JavadocTags.CommandLine

/-- The usage of a program or command, and what its help says besides. -/
structure Manual where
  program : String
  usage : List String
  body : List String

namespace Manual

def usageText (manual : Manual) : String :=
  Text.unlines manual.usage

def helpText (manual : Manual) : String :=
  Text.unlines (manual.usage ++ manual.body)

def general : Manual where
  program := "tagcheck"
  usage :=
    ["usage: tagcheck [-h] [--version] [--config PATH] [-v] [-q]",
     "                \x7bcheck,init,config\x7d ..."]
  body :=
    ["",
     "Javadoc tag verification for Java sources",
     "",
     "positional arguments:",
     "  \x7bcheck,init,config\x7d  Available commands",
     "    check              Check Javadoc comments for a tag",
     "    init               Create .tagcheck.toml in the current directory",
     "    config             Show configuration",
     "",
     "options:",
     "  -h, --help           show this help message and exit",
     "  --version            show program's version number and exit",
     "  --config PATH        Path to configuration file",
     "  -v, --verbose        Verbose output",
     "  -q, --quiet          Suppress non-error output",
     "",
     "Examples:",
     "  tagcheck check                              # Run checks from .tagcheck.toml",
     "  tagcheck check src --tag @author            # Require @author on every type",
     "  tagcheck check --tag @version --tag-format '\\d+\\.\\d+'",
     "  tagcheck check --format json                # Output JSON for tooling",
     "",
     "Configuration:",
     "  tagcheck init                 # Create .tagcheck.toml in current directory",
     "  tagcheck config path          # Show config file location",
     "  tagcheck config show          # View effective settings",
     "",
     "For detailed command help: tagcheck <command> --help",
     "        "]

def check : Manual where
  program := "tagcheck check"
  usage :=
    ["usage: tagcheck check [-h] [--tag TAG] [--tag-format REGEX]",
     "                      [--tag-severity \x7bignore,info,warning,error\x7d]",
     "                      [--severity \x7bignore,info,warning,error\x7d]",
     "                      [--tokens KINDS] [--literal] [--format \x7btext,json\x7d]",
     "                      [--show-ignored]",
     "                      [paths ...]"]
  body :=
    ["",
     "positional arguments:",
     "  paths                 Files or directories to check (default: [scan] paths",
     "                        from config)",
     "",
     "options:",
     "  -h, --help            show this help message and exit",
     "  --tag TAG             Tag to require, e.g. @author (replaces configured",
     "                        checks)",
     "  --tag-format REGEX    Regex the tag content must contain a match of",
     "  --tag-severity \x7bignore,info,warning,error\x7d",
     "                        Severity when the tag is found (default: info)",
     "  --severity \x7bignore,info,warning,error\x7d",
     "                        Severity for missing tags and format mismatches",
     "                        (default: error)",
     "  --tokens KINDS        Comma-separated declaration kinds (default:",
     "                        class,interface,enum,annotation)",
     "  --literal             Match the tag literally instead of as a regex fragment",
     "  --format \x7btext,json\x7d  Output format (default: [output] format from config,",
     "                        else text)",
     "  --show-ignored        Also print diagnostics with severity 'ignore'",
     "",
     "Outcomes:",
     "  type.missingTag   No Javadoc, or the Javadoc lacks the tag (--severity)",
     "  javadoc.writeTag  Tag found with acceptable content (--tag-severity)",
     "  type.tagFormat    Tag found but content fails --tag-format (--severity)",
     "",
     "Tokens: interface, class, enum, annotation, method,"
      ++ " constructor, enum-constant, annotation-field"]

def init : Manual where
  program := "tagcheck init"
  usage :=
    ["usage: tagcheck init [-h] [--force]"]
  body :=
    ["",
     "options:",
     "  -h, --help  show this help message and exit",
     "  --force     Overwrite an existing config file"]

def config : Manual where
  program := "tagcheck config"
  usage :=
    ["usage: tagcheck config [-h] \x7bshow,path\x7d"]
  body :=
    ["",
     "positional arguments:",
     "  \x7bshow,path\x7d  show: print effective settings, path: print config file",
     "               location",
     "",
     "options:",
     "  -h, --help   show this help message and exit"]

end Manual

end JavadocTags.CommandLine
