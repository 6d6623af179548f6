import Checkup.Config.Basic
import Checkup.Files.Error
import Checkup.Glob.Match
import Checkup.Number.Measure
import Checkup.Text.Quoted

/-!
# Valid configurations

A configuration is checked before a scan: its patterns compile, its weights are positive numbers, its
thresholds lie between 0 and 100 with the critical one no higher than the warning one, and its windows have
at least one line. The checks run in this order and the first that fails is reported.
-/

namespace Checkup

/-- Why a configuration is not used. -/
inductive ConfigError (α : Type) where
  | unreadable (path : String) (cause : Files.FileError)
  | malformed (path : String)
  /-- A pattern that does not compile. -/
  | badPattern (pattern : String)
  | badWeight (name : String) (weight : α)
  | crossedThresholds (name : String) (critical warning : α)
  | thresholdOutOfRange (name : String)
  | noMinLines
  | windowTooSmall (maxWindow minLines : Nat)
  deriving Repr

namespace ConfigError

variable {α : Type} [Measure α]

/-- The wording of an error. What is wrong inside a document or a pattern is not worded. -/
def message : ConfigError α → String
  | unreadable path cause => s!"cannot read config {Files.Path.shown path}: {cause.message}"
  | malformed path => s!"cannot parse config {Files.Path.shown path}"
  | badPattern pattern => s!"invalid exclude pattern {Text.quoted pattern}"
  | badWeight name weight =>
    s!"invalid config: weight for {Text.quoted name} must be positive, got {Measure.text weight}"
  | crossedThresholds name critical warning =>
    let shown := Measure.text warning
    s!"invalid config: threshold for {Text.quoted name}: critical ({Measure.text critical}) exceeds warning ({shown})"
  | thresholdOutOfRange name =>
    s!"invalid config: threshold for {Text.quoted name} must be within 0-100"
  | noMinLines => "invalid config: duplication.min_lines must be at least 1"
  | windowTooSmall maxWindow minLines =>
    s!"invalid config: duplication.max_window ({maxWindow}) is smaller than min_lines ({minLines})"

/-- The wording of an error and of what caused it. -/
def report : ConfigError α → String
  | unreadable path cause =>
    s!"cannot read config {Files.Path.shown path}: {cause.message}: {cause.message}"
  | error => error.message

end ConfigError

variable {α : Type} [Measure α]

/-- Whether a number is a percentage. -/
def isPercentage (x : α) : Bool :=
  Measure.le (Measure.ofNat 0) x && Measure.le x (Measure.ofNat 100)

/-- Checks the weight of one analyzer. -/
def checkWeight (name : String) (weight : α) : Except (ConfigError α) Unit :=
  if !Measure.isFinite weight || Measure.le weight (Measure.ofNat 0) then .error (.badWeight name weight)
  else .ok ()

/-- Checks the thresholds of one analyzer. -/
def checkThreshold (name : String) : ThresholdSetting α → Except (ConfigError α) Unit
  | .warning value => if isPercentage value then .ok () else .error (.thresholdOutOfRange name)
  | .bands critical warning =>
    if Measure.lt warning critical then .error (.crossedThresholds name critical warning)
    else if isPercentage critical && isPercentage warning then .ok ()
    else .error (.thresholdOutOfRange name)

/-- Checks the bounds of windows. -/
def checkWindows (settings : Duplication.Settings) : Except (ConfigError α) Unit :=
  if settings.minLines = 0 then .error .noMinLines
  else if settings.maxWindow < settings.minLines then
    .error (.windowTooSmall settings.maxWindow settings.minLines)
  else .ok ()

/-- Compiles the patterns of a configuration. -/
def Config.exclusion (config : Config α) : Except (ConfigError α) Glob.Exclusion :=
  match Glob.Exclusion.compile config.excludePaths with
  | .ok exclusion => .ok exclusion
  | .error pattern => .error (.badPattern pattern)

/-- Checks a configuration. -/
def Config.validate (config : Config α) : Except (ConfigError α) Unit := do
  let _ ← config.exclusion
  config.weights.forM fun (name, weight) => checkWeight name weight
  config.thresholds.forM fun (name, setting) => checkThreshold name setting
  checkWindows config.duplication

end Checkup
