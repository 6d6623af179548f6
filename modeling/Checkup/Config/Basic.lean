import Checkup.Duplication.Window

/-!
# Configuration

What a checkup runs and how its results are judged. Everything has a default, so the empty configuration is
a configuration.
-/

namespace Checkup

/-! ### The analyzers by name -/

namespace AnalyzerName

def duplication : String := "duplication"
def complexity : String := "complexity"
def dependency : String := "dependency"
def bundleSize : String := "bundle-size"
def typeSafety : String := "type-safety"

/-- The names of the built-in analyzers, in the order in which they run by default. -/
def all : List String := [duplication, complexity, dependency, bundleSize, typeSafety]

end AnalyzerName

/-- A change to the thresholds of one analyzer. -/
inductive ThresholdSetting (α : Type) where
  /-- A new warning threshold, which the critical one does not exceed. -/
  | warning (value : α)
  /-- Both thresholds. -/
  | bands (critical warning : α)
  deriving Repr

/-- How files are judged by their complexity. -/
structure ComplexitySettings where
  /-- Files above this complexity are reported. -/
  maxFileComplexity : Nat := 20
  deriving DecidableEq, Repr

/-- How dependencies are judged. -/
structure DependencySettings where
  /-- The number of direct dependencies above which the score drops. -/
  maxDependencies : Nat := 50
  /-- A program and its arguments; it prints an object with the outdated packages as names. -/
  outdatedCommand : List String := []
  deriving DecidableEq, Repr

/-- How emitted assets are judged. -/
structure BundleSettings where
  /-- The directories of the build output, relative to the project. -/
  outputDirs : List String := ["dist", "build"]
  budgetKb : Nat := 500
  deriving DecidableEq, Repr

/-- The directories whose children are projects. -/
structure Layout where
  applications : List String := ["apps"]
  libraries : List String := ["libs", "packages"]
  deriving DecidableEq, Repr

/-- A configuration over the numbers `α`. -/
structure Config (α : Type) where
  /-- The analyzers to run, in order; names that no analyzer has are skipped. -/
  enabledAnalyzers : List String := AnalyzerName.all
  /-- Patterns of paths, relative to a project, to leave out. -/
  excludePaths : List String := ["**/*.min.js", "**/*.d.ts"]
  /-- By analyzer name, ascending. -/
  thresholds : List (String × ThresholdSetting α) := []
  /-- By analyzer name, ascending. -/
  weights : List (String × α) := []
  duplication : Duplication.Settings := {}
  complexity : ComplexitySettings := {}
  dependency : DependencySettings := {}
  bundle : BundleSettings := {}
  workspace : Layout := {}
  /-- The most projects scanned at once; none or zero leaves it to the machine. -/
  jobs : Option Nat := none
  debug : Bool := false
  deriving Repr

/-- The most projects scanned at once on a machine with so many processors. -/
def Config.workerCount (processors : Nat) (config : Config α) : Nat :=
  match config.jobs with
  | some n => if 0 < n then n else processors
  | none => processors

theorem Config.workerCount_pos {processors : Nat} (h : 0 < processors) (config : Config α) :
    0 < config.workerCount processors := by
  rw [workerCount]
  split
  · split <;> assumption
  · exact h

end Checkup
