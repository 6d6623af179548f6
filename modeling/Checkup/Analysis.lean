import Checkup.Assets.Basic
import Checkup.Complexity.Basic
import Checkup.Dependency.Basic
import Checkup.Duplication.Detect
import Checkup.Escapes.Basic

/-!
# Analyses

What an analyzer finds out about a project, and what is kept of one run of it: findings, or the reasons why
there are none.
-/

namespace Checkup

/-- What one of the analyzers finds out. -/
inductive Findings where
  | duplication (found : Duplication.Findings)
  | complexity (found : Complexity.Findings)
  | dependency (found : Dependency.Findings)
  | bundleSize (found : Assets.Findings)
  | typeSafety (found : Escapes.Findings)
  deriving DecidableEq, Repr

/-- One run of an analyzer. -/
structure Analysis where
  analyzer : String
  success : Bool
  findings : Option Findings
  errors : List String
  deriving DecidableEq, Repr

namespace Analysis

/-- A run that found something out. -/
def succeeded (analyzer : String) (findings : Findings) : Analysis :=
  ⟨analyzer, true, some findings, []⟩

/-- A run that failed. -/
def failed (analyzer : String) (errors : List String) : Analysis :=
  ⟨analyzer, false, none, errors⟩

/-- The findings of a run, if it succeeded. -/
def result? (a : Analysis) : Option Findings :=
  if a.success then a.findings else none

end Analysis

end Checkup
