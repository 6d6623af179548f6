import Checkup.Number.Measure
import Checkup.Text.LetterCase

/-!
# Summaries and their parts

An analysis is summed up by a score from 0 to 100, the issues behind it, and some figures. The score falls
into one of three bands.
-/

namespace Checkup.Health

variable {α : Type}

/-- How bad an issue is, the worst first. -/
inductive Severity where
  | critical
  | warning
  | info
  deriving DecidableEq, Repr

/-- The name of a severity. -/
def Severity.name : Severity → String
  | .critical => "critical"
  | .warning => "warning"
  | .info => "info"

/-- The severity that a text names, in capital or small letters. -/
def Severity.ofText? (text : String) : Option Severity :=
  let small := String.ofList (Text.lowercase text.toList)
  [.critical, .warning, .info].find? (·.name = small)

/-- Something found wrong, in a file or in the project as a whole. -/
structure Issue where
  kind : String
  severity : Severity
  message : String
  file : Option String
  deriving DecidableEq, Repr

/-- What an analysis comes to. -/
structure Summary (α : Type) where
  score : α
  issues : List Issue
  /-- Figures by name, ascending. -/
  metrics : List (String × α)
  deriving Repr

/-- The critical issues of a summary. -/
def Summary.criticalIssues (s : Summary α) : List Issue :=
  s.issues.filter (·.severity = .critical)

/-- The band of a score. -/
inductive Status where
  | healthy
  | caution
  | failing
  deriving DecidableEq, Repr

/-- The name of a band. -/
def Status.name : Status → String
  | .healthy => "healthy"
  | .caution => "caution"
  | .failing => "failing"

/-- Where the bands end: scores below `critical` are failing, and the others below `warning` call for
caution. -/
structure Thresholds (α : Type) where
  critical : α
  warning : α
  deriving Repr

/-- The band of a score. -/
def Thresholds.status [Measure α] (t : Thresholds α) (score : α) : Status :=
  if Measure.lt score t.critical then .failing
  else if Measure.lt score t.warning then .caution
  else .healthy

/-- The bands of a project's overall score and of a workspace's. -/
def overallThresholds [Measure α] : Thresholds α :=
  ⟨Measure.ofNat 50, Measure.ofNat 75⟩

/-- How urgent a recommendation is, the most urgent first. -/
inductive Priority where
  | high
  | medium
  | low
  deriving DecidableEq, Repr

namespace Priority

/-- The name of a priority. -/
def name : Priority → String
  | high => "high"
  | medium => "medium"
  | low => "low"

/-- The place of a priority, 0 for the most urgent. -/
def rank : Priority → Nat
  | high => 0
  | medium => 1
  | low => 2

end Priority

/-- Something to be done. -/
structure Recommendation where
  priority : Priority
  analyzer : String
  message : String
  /-- The projects concerned, where there are several. -/
  projects : List String
  deriving DecidableEq, Repr

/-- Where a score has moved since the previous report. -/
inductive Trend where
  | improving
  | stable
  | declining
  deriving DecidableEq, Repr

/-- The name of a trend. -/
def Trend.name : Trend → String
  | .improving => "improving"
  | .stable => "stable"
  | .declining => "declining"

/-- The trend from a previous score, if there is one. Two points in either direction are still stable. -/
def Trend.between [Measure α] (previous : Option α) (current : α) : Trend :=
  match previous with
  | none => .stable
  | some previous =>
    if Measure.lt (Measure.ofNat 2) (current - previous) then .improving
    else if Measure.lt (Measure.ofNat 2) (previous - current) then .declining
    else .stable

end Checkup.Health
