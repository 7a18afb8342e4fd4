/-!
# The forms of a command line

Which options the program and each of its subcommands take, which other arguments they take,
and the help they give. An option may have a short spelling, a dash and a letter, and a long
one, two dashes and a word.
-/

namespace Cnd.Command

inductive Flag where
  | help
  | config
  | verbose
  | output
  | write
deriving DecidableEq, Repr

namespace Flag

def spellings : Flag → List String
  | help => ["-h", "--help"]
  | config => ["--config"]
  | verbose => ["-v", "--verbose"]
  | output => ["-o", "--output"]
  | write => ["--write"]

/-- Does a value belong to the option? -/
def takesValue : Flag → Bool
  | config | output => true
  | help | verbose | write => false

def label (f : Flag) : String := "/".intercalate f.spellings

end Flag

/-- What arguments there are besides the options. -/
inductive Operands where
  | one
  | several
  | command
deriving DecidableEq, Repr

inductive Subcommand where
  | check
  | toArtifact
  | format
deriving DecidableEq, Repr

namespace Subcommand

def all : List Subcommand := [check, toArtifact, format]

def name : Subcommand → String
  | check => "check"
  | toArtifact => "export"
  | format => "format"

def ofName? (s : String) : Option Subcommand := all.find? (·.name = s)

end Subcommand

/-- What a command line may look like. -/
structure Form where
  title : String
  flags : List Flag
  operands : Operands
  demanded : Option String
  usage : String
  details : List String
deriving DecidableEq, Repr

namespace Form

def main : Form where
  title := "cndkit"
  flags := [.help, .config, .verbose]
  operands := .command
  demanded := none
  usage := "usage: cndkit [-h] [--config CONFIG] [-v] COMMAND ..."
  details := [
    "",
    "cndkit - Compact Node Definition (CND) tool",
    "",
    "positional arguments:",
    "  COMMAND",
    "    check          Parse and validate CND files",
    "    export         Export a CND file as a JSON artifact",
    "    format         Print a CND file in canonical form",
    "",
    "options:",
    "  -h, --help       show this help message and exit",
    "  --config CONFIG  Path to the configuration file (default: .cndkit.yaml in",
    "                   the current directory, if present)",
    "  -v, --verbose    Enable debug logging"]

def check : Form where
  title := "cndkit check"
  flags := [.help]
  operands := .several
  demanded := some "files"
  usage := "usage: cndkit check [-h] files [files ...]"
  details := [
    "",
    "Parse CND files and run the schema consistency checks.",
    "",
    "positional arguments:",
    "  files       CND files to check",
    "",
    "options:",
    "  -h, --help  show this help message and exit"]

/-- The form of the subcommand that makes artifacts. -/
def toArtifact : Form where
  title := "cndkit export"
  flags := [.help, .output]
  operands := .one
  demanded := some "file"
  usage := "usage: cndkit export [-h] [-o OUTPUT] file"
  details := [
    "",
    "Parse a CND file and write its schema as JSON. Without --output the artifact",
    "goes to the configured output directory, or to stdout if none is configured.",
    "",
    "positional arguments:",
    "  file                  CND file to export",
    "",
    "options:",
    "  -h, --help            show this help message and exit",
    "  -o OUTPUT, --output OUTPUT",
    "                        Path of the JSON artifact to write"]

def format : Form where
  title := "cndkit format"
  flags := [.help, .write]
  operands := .one
  demanded := some "file"
  usage := "usage: cndkit format [-h] [--write] file"
  details := [
    "",
    "Parse a CND file and print it in canonical CND form.",
    "",
    "positional arguments:",
    "  file        CND file to format",
    "",
    "options:",
    "  -h, --help  show this help message and exit",
    "  --write     Rewrite the file in place instead of printing it"]

def ofSubcommand : Subcommand → Form
  | .check => check
  | .toArtifact => toArtifact
  | .format => format

def help (f : Form) : String := String.join ((f.usage :: f.details).map (· ++ "\n"))

/-- The spellings of the options, each with its option. -/
def spellings (f : Form) : List (String × Flag) :=
  f.flags.flatMap fun flag => flag.spellings.map fun s => (s, flag)

def flag? (f : Form) (spelling : String) : Option Flag := f.spellings.lookup spelling

end Form

end Cnd.Command
