/-!
# Help

* `helpText`: the help on the program or on one of its commands.
* `versionText`: its version.
-/

namespace Listfile.CommandLine

/-- Lines of text. -/
def lines (ls : List String) : String := String.join (ls.map (· ++ "\n"))

/-- The help on the program. -/
def programHelp : String := lines [
  "Scope tokenizer, parser and formatter for CMake files",
  "",
  "Usage: cmake-syntax [OPTIONS] <COMMAND>",
  "",
  "Commands:",
  "  tokenize  Print the scoped tokens of a file",
  "  parse     Print the syntax tree of a file as JSON",
  "  format    Normalize whitespace in a file",
  "  syntaxes  List bundled grammars and their file associations",
  "  help      Print this message or the help of the given subcommand(s)",
  "",
  "Options:",
  "  -c, --config <config>  Configuration file layered over the built-in defaults",
  "  -h, --help             Print help",
  "  -V, --version          Print version"]

/-- The help on showing tokens. -/
def tokenizeHelp : String := lines [
  "Print the scoped tokens of a file",
  "",
  "Usage: cmake-syntax tokenize [OPTIONS] <path>",
  "",
  "Arguments:",
  "  <path>  Path to the CMake file",
  "",
  "Options:",
  "  -f, --format <format>    Output format: tag, scopes or json (default from config)",
  "  -g, --grammar <grammar>  Grammar definition to use instead of the bundled ones",
  "  -c, --config <config>    Configuration file layered over the built-in defaults",
  "  -h, --help               Print help"]

/-- The help on showing syntax trees. -/
def parseHelp : String := lines [
  "Print the syntax tree of a file as JSON",
  "",
  "Usage: cmake-syntax parse [OPTIONS] <path>",
  "",
  "Arguments:",
  "  <path>  Path to the CMake file",
  "",
  "Options:",
  "  -c, --config <config>  Configuration file layered over the built-in defaults",
  "  -h, --help             Print help"]

/-- The help on formatting. -/
def formatHelp : String := lines [
  "Normalize whitespace in a file",
  "",
  "Usage: cmake-syntax format [OPTIONS] <path>",
  "",
  "Arguments:",
  "  <path>  Path to the CMake file",
  "",
  "Options:",
  "      --check            Exit with status 1 if the file is not formatted",
  "  -w, --write            Rewrite the file in place",
  "  -c, --config <config>  Configuration file layered over the built-in defaults",
  "  -h, --help             Print help"]

/-- The help on listing grammars. -/
def syntaxesHelp : String := lines [
  "List bundled grammars and their file associations",
  "",
  "Usage: cmake-syntax syntaxes [OPTIONS]",
  "",
  "Options:",
  "  -c, --config <config>  Configuration file layered over the built-in defaults",
  "  -h, --help             Print help"]

/-- The help on help. -/
def helpHelp : String := lines [
  "Print this message or the help of the given subcommand(s)",
  "",
  "Usage: cmake-syntax help [COMMAND]...",
  "",
  "Arguments:",
  "  [COMMAND]...  Print help for the subcommand(s)"]

/-- The help on the program or on one of its commands. -/
def helpText : Option String → String
  | none => programHelp
  | some "tokenize" => tokenizeHelp
  | some "parse" => parseHelp
  | some "format" => formatHelp
  | some "syntaxes" => syntaxesHelp
  | some "help" => helpHelp
  | some _ => programHelp

/-- The version of the program. -/
def versionText : String := lines ["cmake-syntax 0.1.0"]

end Listfile.CommandLine
