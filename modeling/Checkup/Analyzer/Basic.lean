import Checkup.Config.Validate
import Checkup.Files.Source
import Checkup.Program.Output
import Checkup.Workspace.Basic

/-!
# Analyzers

An analyzer looks at one project and either finds something out or fails. A failure is kept with the run
(`Analyzer.analysis`), so that an analyzer that breaks down takes nothing else with it.

* `Analyzer` — a name, the kinds of projects it is for, and what it does.
* `Registry` — analyzers by name; the latest of a name counts.
-/

namespace Checkup

open Workspace

/-- What an analyzer is given: a project and the surroundings in which it is looked at. -/
structure Subject where
  tree : Files.Tree
  run : Program.Runner
  config : Config Float
  exclusion : Glob.Exclusion
  project : Project
  metadata : Metadata

/-- The source files of the project, without the excluded ones. -/
def Subject.sources (subject : Subject) : List Files.Source :=
  match subject.tree.resolve subject.metadata.root with
  | .ok (_, directory) => Files.sources subject.exclusion Files.sourceExtensions directory
  | .error _ => []

/-- Why a run of an analyzer has no findings. -/
inductive Failure where
  /-- The analyzer cannot do its work. -/
  | refusal (message : String)
  /-- The analyzer has broken down. -/
  | breakdown (message : String)
  deriving DecidableEq, Repr

/-- The wording of a failure. -/
def Failure.message : Failure → String
  | refusal message => message
  | breakdown message => s!"panic: {message}"

/-- The failure of an analyzer that has given its work to a task of some number, which has broken down. The
analyzer itself has not. -/
def Failure.ofTask (task : Nat) (message : String) : Failure :=
  .refusal s!"task {task} panicked with message {Text.quoted message}"

/-- The outcome of a computation, where an overflow breaks down what computes. -/
def Failure.ofOverflow (broken : String → Failure) (outcome : Except Overflow α) : Except Failure α :=
  outcome.mapError fun overflow => broken overflow.message

/-- One way of looking at a project. -/
structure Analyzer where
  name : String
  /-- The kinds of projects that it is for. -/
  supports : ProjectKind → Bool
  analyze : Subject → Except Failure Findings
  /-- Whether looking at the project asks for the whole scan to stop. -/
  interrupts : Subject → Bool

/-- What is kept of a run of an analyzer. -/
def Analyzer.analysis (analyzer : Analyzer) (subject : Subject) : Analysis :=
  match analyzer.analyze subject with
  | .ok findings => .succeeded analyzer.name findings
  | .error failure => .failed analyzer.name [failure.message]

/-- Analyzers, of which the first of a name counts. -/
abbrev Registry := List Analyzer

namespace Registry

/-- The analyzer of a name. -/
def get? (registry : Registry) (name : String) : Option Analyzer :=
  registry.find? (·.name == name)

/-- The registry with one more analyzer, in the place of the one of its name. -/
def register (registry : Registry) (analyzer : Analyzer) : Registry :=
  analyzer :: registry.filter (·.name != analyzer.name)

/-- The analyzers that a configuration enables for projects of a kind, in its order. Names that nothing is
registered under are passed over. -/
def enabled (registry : Registry) (names : List String) (kind : ProjectKind) : List Analyzer :=
  (names.filterMap registry.get?).filter (·.supports kind)

end Registry

end Checkup
