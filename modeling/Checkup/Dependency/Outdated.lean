import Checkup.Json.Decode
import Checkup.Json.Reader
import Checkup.Program.Output
import Checkup.Text.Blank

/-!
# Outdated packages

Newer releases are looked for by a command that prints a JSON object with the outdated packages as names.
Such commands often end with an error just because something is outdated, so an object counts however the
command ended. A command is given two minutes.
-/

namespace Checkup.Dependency

open Program

/-- The time that a command is given. -/
def timeout : String := "120s"

/-- Why a command gives no packages. -/
inductive OutdatedError where
  | notFound (program : String) (cause : Files.FileError)
  | timedOut (program : String)
  | failed (program : String) (ending : Ending) (errors : String)
  /-- The command printed JSON, but no object. -/
  | noObject (program : String)
  /-- The command ended well and printed what is no JSON. -/
  | malformed (program : String)
  deriving DecidableEq, Repr

/-- The wording of an error. What is wrong in malformed output is not worded. -/
def OutdatedError.message : OutdatedError → String
  | notFound program cause => s!"failed to run {program}: {cause.message}"
  | timedOut program => s!"{program} timed out after {timeout}: deadline has elapsed"
  | failed program ending errors => s!"{program} exited with {ending.text}: {errors}"
  | noObject program => s!"{program} did not print a JSON object"
  | malformed program => s!"{program} printed invalid JSON"

/-- The names of an object's members, ascending, each once. -/
def memberNames (members : List (String × Json)) : List String :=
  (Entries.sort (Entries.merge members)).map (·.1)

/-- The outdated packages that the output of a program names. -/
def outdatedIn (program : String) (output : Output) : Except OutdatedError (List String) :=
  let failure := OutdatedError.failed program output.ending
    (String.ofList (Text.trim (Text.decode output.stderr)))
  let printed := Text.decode output.stdout
  if (Text.trim printed).isEmpty then
    if output.ending.isSuccess then .ok [] else .error failure
  else
    match Json.parseSound? printed with
    | some (.object members) => .ok (memberNames members)
    | some _ => .error (.noObject program)
    | none => .error (if output.ending.isSuccess then .malformed program else failure)

/-- The outdated packages that a command names when it is run in a directory. -/
def outdated (run : Runner) (directory : String) (command : List String) :
    Except OutdatedError (List String) :=
  let program := command.head?.getD ""
  match run.output directory command with
  | .error (.notStarted cause) => .error (.notFound program cause)
  | .error .tooLong => .error (.timedOut program)
  | .ok output => outdatedIn program output

end Checkup.Dependency
