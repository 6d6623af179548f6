import Checkup.Command.Options

/-!
# Usage

What is printed when the words of a command line make no command.
-/

namespace Checkup.Command

/-- The version of the program. -/
def version : String := "0.1.0"

/-- A word on the commands and their options. -/
def usageText : String :=
  String.join ([
    "Workspace code health scanner",
    "",
    "Usage: healthscan [OPTIONS] <COMMAND>",
    "",
    "Commands:",
    "  scan  Scan a workspace and report its health",
    "  init  Write a default healthscan.yaml",
    "  help  Print this message",
    "",
    "Options:",
    "  -v, --verbose  Increase log verbosity (-v, -vv, -vvv)",
    "  -h, --help     Print help",
    "  -V, --version  Print version",
    "",
    "Options of scan [ROOT]:",
    "  -p, --project <PROJECT>    Scan a single project by name",
    "  -f, --format <FORMAT>      Report format: json (default) or html",
    "  -o, --output <OUTPUT>      Report file (JSON defaults to stdout, HTML to healthscan-report.html)",
    "  -c, --config <CONFIG>      Path to config file (default: auto-discover in the workspace root)",
    "  -j, --jobs <JOBS>          Maximum projects scanned concurrently",
    "  -y, --yes                  Run without prompting",
    "      --previous <PREVIOUS>  Earlier JSON report used to compute the trend",
    "",
    "Options of init:",
    "  -o, --output <OUTPUT>  Output file path (default: healthscan.yaml)"].map (· ++ "\n"))

namespace UsageError

/-- Whether an error is an answer to a question rather than a complaint. -/
def isAnswer (e : UsageError) : Bool :=
  e = help || e = version

/-- The code that the program ends with. -/
def code (e : UsageError) : Nat :=
  if e.isAnswer then 0 else 2

/-- The wording of an error. -/
def message : UsageError → String
  | help | nothingGiven => usageText
  | version => s!"healthscan {Command.version}\n"
  | missingCommand => "error: a command is required\n"
  | unknownCommand => "error: unrecognized command\n"
  | unknownArgument => "error: unexpected argument\n"
  | superfluousValue => "error: unexpected value for an option that takes none\n"
  | invalidValue => "error: missing or invalid value for an option\n"
  | malformedValue => "error: malformed value for an option\n"
  | repeated => "error: an option cannot be used multiple times\n"

end UsageError

end Checkup.Command
