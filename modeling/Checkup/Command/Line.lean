import Checkup.Command.Options
import Checkup.Number.Word

/-!
# The command line

There are two commands: `scan`, which makes a report on a workspace, and `init`, which writes a configuration
to start from. `Line.parse` reads a command from the words of the command line.
-/

namespace Checkup.Command

/-- The forms of a report. -/
inductive Format where
  | json
  | html
  deriving DecidableEq, Repr

/-- The name of a form. -/
def Format.name : Format → String
  | json => "json"
  | html => "html"

/-- What a scan is asked for. -/
structure ScanArguments where
  /-- The workspace. -/
  root : String
  /-- The only project to scan. -/
  project : Option String
  format : Format
  /-- Where the report goes. -/
  output : Option String
  /-- The configuration, if not that of the workspace. -/
  config : Option String
  /-- The most projects scanned at once. -/
  jobs : Option Nat
  /-- Whether nothing may be asked. -/
  yes : Bool
  /-- An earlier report to compare with. -/
  previous : Option String
  deriving DecidableEq, Repr

/-- The commands. -/
inductive Action where
  | scan (arguments : ScanArguments)
  /-- Writes a configuration to a path. -/
  | init (output : String)
  deriving DecidableEq, Repr

/-- A command line: a command and how often verbosity was asked for. -/
structure Line where
  verbosity : Nat
  action : Action
  deriving DecidableEq, Repr

/-! ### Values -/

/-- Any text. -/
def anyText (text : String) : Except UsageError String :=
  .ok text

/-- A path, which is not empty. -/
def pathText (text : String) : Except UsageError String :=
  if text = "" then .error .invalidValue else .ok text

/-- The name of a form. -/
def formatNamed (text : String) : Except UsageError Format :=
  match [Format.json, Format.html].find? (·.name == text) with
  | some format => .ok format
  | none => .error .invalidValue

/-- A word in decimal digits, perhaps after a plus sign. -/
def wordText (text : String) : Except UsageError Nat :=
  let digits := match text.toList with
    | '+' :: rest => rest
    | all => all
  let value := digits.foldl (fun n c => 10 * n + (c.toNat - '0'.toNat)) 0
  if digits.isEmpty || !digits.all Char.isDigit || Word.size ≤ value then .error .malformedValue
  else .ok value

/-! ### Options -/

/-- A setting that may be made once, before its value is looked at. -/
def once (get : σ → Option α) (put : α → σ → σ) (read : String → Except UsageError α) : Setter σ :=
  fun text s => if (get s).isSome then .error .repeated else do return put (← read text) s

/-- How often verbosity was asked for, once more; it is counted up to 255. -/
def moreVerbose (count : Nat) : Nat :=
  min (count + 1) 255

/-- The option that asks for verbosity. -/
def verboseOption (raise : σ → σ) : Switch σ :=
  ⟨some 'v', ["verbose"], .flag fun s => .ok (raise s)⟩

/-- The option that asks for help. -/
def helpOption : Switch σ :=
  ⟨some 'h', ["help"], .flag fun _ => .error .help⟩

/-- The settings of a scan as they are given. -/
structure ScanWords where
  verbosity : Nat := 0
  root : Option String := none
  project : Option String := none
  format : Option Format := none
  output : Option String := none
  config : Option String := none
  jobs : Option Nat := none
  yes : Bool := false
  previous : Option String := none

/-- What is understood after `scan`. -/
def scanGrammar : Grammar ScanWords where
  options := [
    ⟨some 'p', ["project"], .value (once (·.project) (fun x s => { s with project := x }) anyText)⟩,
    ⟨some 'f', ["format"], .value (once (·.format) (fun x s => { s with format := x }) formatNamed)⟩,
    ⟨some 'o', ["output"], .value (once (·.output) (fun x s => { s with output := x }) pathText)⟩,
    ⟨some 'c', ["config"], .value (once (·.config) (fun x s => { s with config := x }) pathText)⟩,
    ⟨some 'j', ["jobs"], .value (once (·.jobs) (fun x s => { s with jobs := x }) wordText)⟩,
    ⟨some 'y', ["yes", "non-interactive"],
      .flag fun s => if s.yes then .error .repeated else .ok { s with yes := true }⟩,
    ⟨none, ["previous"], .value (once (·.previous) (fun x s => { s with previous := x }) pathText)⟩,
    verboseOption fun s => { s with verbosity := moreVerbose s.verbosity },
    helpOption]
  operand := some (once (·.root) (fun x s => { s with root := x }) pathText)
  unplaced := .unknownArgument

/-- The settings of a scan, with the ones not given at their defaults. -/
def ScanWords.arguments (s : ScanWords) : ScanArguments where
  root := s.root.getD "."
  project := s.project
  format := s.format.getD .json
  output := s.output
  config := s.config
  jobs := s.jobs
  yes := s.yes
  previous := s.previous

/-- The settings of `init` as they are given. -/
structure InitWords where
  verbosity : Nat := 0
  output : Option String := none

/-- What is understood after `init`. -/
def initGrammar : Grammar InitWords where
  options := [
    ⟨some 'o', ["output"], .value (once (·.output) (fun x s => { s with output := x }) pathText)⟩,
    verboseOption fun s => { s with verbosity := moreVerbose s.verbosity },
    helpOption]
  operand := none
  unplaced := .unknownArgument

/-- What is understood in front of the command. -/
def generalGrammar : Grammar Nat where
  options := [verboseOption moreVerbose, helpOption, ⟨some 'V', ["version"], .flag fun _ => .error .version⟩]
  operand := none
  unplaced := .unknownCommand

/-! ### Commands -/

/-- The commands by name. -/
def commandNames : List String := ["scan", "init", "help"]

/-- The answer to a request for help on some commands. No command has commands of its own. -/
def helpOn : List String → UsageError
  | [] => .help
  | [name] => if commandNames.contains name then .help else .unknownCommand
  | _ => .unknownCommand

/-- Verbosity asked for in front of a command and after it; the latter counts. -/
def Line.withVerbosity (before after : Nat) (action : Action) : Line :=
  ⟨if after = 0 then before else after, action⟩

/-- The command of a name, from the words after it. -/
def Line.ofCommand (verbosity : Nat) (name : String) (words : List String) : Except UsageError Line :=
  match name with
  | "scan" => do
    let given ← scanGrammar.read {} words
    return .withVerbosity verbosity given.verbosity (.scan given.arguments)
  | "init" => do
    let given ← initGrammar.read {} words
    return .withVerbosity verbosity given.verbosity (.init (given.output.getD "healthscan.yaml"))
  | _ => .error (helpOn words)

/-- The command in words of which the ones before have been read. -/
def Line.parseFrom (r : Reader Nat) : List String → Except UsageError Line
  | [] => .error (if r.state = 0 then .nothingGiven else .missingCommand)
  | word :: rest =>
    if commandNames.contains word then
      if r.operandsOnly then .error .unknownArgument else Line.ofCommand r.state word rest
    else do Line.parseFrom (← r.feed generalGrammar word) rest

/-- The command in the words of a command line. -/
def Line.parse (words : List String) : Except UsageError Line :=
  Line.parseFrom (generalGrammar.start 0) words

end Checkup.Command
