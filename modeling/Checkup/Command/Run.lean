import Checkup.Analyzer.BuiltIn
import Checkup.Command.Line
import Checkup.Config.Load
import Checkup.Config.Template
import Checkup.Health.Decode
import Checkup.Health.Encode
import Checkup.Health.Page
import Checkup.Health.Terminal
import Checkup.Workspace.Scan

/-!
# Running a command

A command is run on a file tree. It leaves a file tree, has printed something, and ends with a code: 0 if all
is well, 1 if the report has failures, 2 if the command could not do its work. Writing the report may fail,
and then there is no code.

* `runScan` — makes a report on a workspace.
* `runInit` — writes a configuration to start from.
-/

namespace Checkup.Command

/-- The code of a command that could not do its work. -/
def errorCode : Nat := 2

/-- What a command leaves behind. -/
structure Result where
  tree : Files.Tree
  stdout : String
  stderr : String
  /-- The code that the command ends with, or why its report could not be written. -/
  ending : Except Files.FileError Nat

/-- What a command uses besides its arguments. -/
structure Setting where
  tree : Files.Tree
  run : Program.Runner
  now : Time.Timestamp
  /-- Whether the summary is in colors. -/
  colored : Bool

/-- The result of a command that could not do its work. -/
def refuse (setting : Setting) (message : String) : Result :=
  ⟨setting.tree, "", s!"Error: {message}\n", .ok errorCode⟩

/-! ### Making a report -/

/-- Why there is no report. -/
inductive ScanError where
  | config (error : ConfigError Float)
  | badPrevious (path : String)
  | discovery (error : Workspace.DiscoveryError)

/-- The wording of an error. What is wrong with the earlier report is not worded. -/
def ScanError.message : ScanError → String
  | config error => error.report
  | badPrevious path => s!"cannot load previous report {Files.Path.shown path}"
  | discovery error => error.message

/-- The configuration of a scan, checked. -/
def configFor (tree : Files.Tree) (arguments : ScanArguments) :
    Except (ConfigError Float) (Config Float) := do
  let config ← match arguments.config with
    | some path => Config.load tree path
    | none => (Config.discover tree arguments.root).map (·.1)
  let config := { config with jobs := arguments.jobs.or config.jobs }
  config.validate
  return config

/-- The score of an earlier report, if one is given. -/
def previousScore (tree : Files.Tree) (path : Option String) : Except ScanError (Option Float) :=
  match path with
  | none => .ok none
  | some path =>
    match tree.readText path with
    | .error _ => .error (.badPrevious path)
    | .ok text =>
      match Health.WorkspaceReport.parse? text with
      | some report => .ok (some report.score)
      | none => .error (.badPrevious path)

/-- The projects to scan. -/
def projectsFor (tree : Files.Tree) (arguments : ScanArguments) (layout : Layout) :
    Except Workspace.DiscoveryError (List Workspace.Project) := do
  Workspace.select (← Workspace.discover tree arguments.root layout) arguments.project

/-- The report that a scan makes, with the profiles that it is judged by. -/
def reportFor (setting : Setting) (arguments : ScanArguments) :
    Except ScanError (Health.Profiles Float × Health.WorkspaceReport Float) := do
  let tree := setting.tree
  let config ← (configFor tree arguments).mapError .config
  let previous ← previousScore tree arguments.previous
  let projects ← (projectsFor tree arguments config.workspace).mapError .discovery
  let exclusion ← config.exclusion.mapError .config
  let scanner : Workspace.Scanner := ⟨tree, setting.run, .builtIn, config, exclusion⟩
  let profiles := Health.Profiles.ofConfig config
  return (profiles, .ofOutcome profiles previous setting.now (scanner.scan projects false).outcome)

/-! ### Writing a report -/

/-- The file of a page if none is given. -/
def defaultPage : String := "healthscan-report.html"

/-- The result of writing a text to a file and printing a summary. -/
def writeAndSummarize (tree : Files.Tree) (path text summary : String) (code : Nat) : Result :=
  match tree.writeText path text with
  | .ok tree => ⟨tree, s!"{summary}  Report written to {Files.Path.shown path}\n", "", .ok code⟩
  | .error cause => ⟨tree, "", "", .error cause⟩

/-- The result of writing a report where it is wanted. Without a file, JSON is printed and the summary goes
to the other stream. -/
def writeReport (setting : Setting) (arguments : ScanArguments) (profiles : Health.Profiles Float)
    (report : Health.WorkspaceReport Float) : Result :=
  let tree := setting.tree
  let code := if report.hasFailures profiles then 1 else 0
  let summary := report.terminalText setting.colored profiles
  match arguments.format, arguments.output with
  | .json, none => ⟨tree, report.jsonText, summary, .ok code⟩
  | .json, some path => writeAndSummarize tree path report.jsonText summary code
  | .html, output => writeAndSummarize tree (output.getD defaultPage) (report.page profiles) summary code

/-- Makes a report on a workspace and writes it. -/
def runScan (setting : Setting) (arguments : ScanArguments) : Result :=
  match reportFor setting arguments with
  | .error error => refuse setting error.message
  | .ok (profiles, report) => writeReport setting arguments profiles report

/-! ### Writing a configuration -/

/-- The tree with the directory that a file is written to. -/
def prepareDirectory (tree : Files.Tree) (path : String) : Except Files.FileError Files.Tree :=
  match Files.Path.parent? path with
  | none | some "" | some "." => .ok tree
  | some parent => tree.makeDirectories parent

/-- What is printed once a configuration is written. -/
def initMessage (path : String) : String :=
  let path := Files.Path.shown path
  String.join [s!"Created {path}\n", "\n", "Next steps:\n",
    s!"  1. Edit {path} to tune analyzers and thresholds\n",
    s!"  2. Run: healthscan scan . --config {path}\n"]

/-- Writes a configuration to start from, unless there is a file already. -/
def runInit (setting : Setting) (path : String) : Result :=
  if setting.tree.holds path then
    let path := Files.Path.shown path
    refuse setting s!"file already exists: {path}\nRemove it or use --output to specify a different path"
  else
    match prepareDirectory setting.tree path with
    | .error cause => refuse setting s!"failed to create directory: {cause.message}"
    | .ok tree =>
      match tree.writeText path Config.template with
      | .error cause => refuse { setting with tree := tree } s!"failed to write config: {cause.message}"
      | .ok tree => ⟨tree, initMessage path, "", .ok 0⟩

/-- The file that a command writes, if it writes one. -/
def Action.target? : Action → Option String
  | .init path => some path
  | .scan arguments =>
    match arguments.format with
    | .json => arguments.output
    | .html => some (arguments.output.getD defaultPage)

/-- Runs a command. -/
def run (setting : Setting) : Action → Result
  | .scan arguments => runScan setting arguments
  | .init path => runInit setting path

end Checkup.Command
