import Checkup.Analyzer.Basic
import Checkup.Workspace.Discover
import Checkup.Workspace.Progress
import Checkup.Workspace.Resolve

/-!
# Scanning a workspace

Each project is resolved and looked at by the analyzers that its configuration enables for its kind. A project
that cannot be resolved has failed, and the scan goes on.
-/

namespace Checkup.Workspace

/-- What a scan is made with. -/
structure Scanner where
  tree : Files.Tree
  run : Program.Runner
  registry : Registry
  config : Config Float
  exclusion : Glob.Exclusion

namespace Scanner

/-- The analyzers for a project, in order. -/
def analyzers (scanner : Scanner) (project : Project) : List Analyzer :=
  scanner.registry.enabled scanner.config.enabledAnalyzers project.kind

/-- What analyzers are given to look at a project. -/
def subject (scanner : Scanner) (project : Project) : Except ProjectError Subject := do
  let metadata ← resolve scanner.tree project.root
  return ⟨scanner.tree, scanner.run, scanner.config, scanner.exclusion, project, metadata⟩

/-- Resolves a project and runs its analyzers. -/
def scanProject (scanner : Scanner) (project : Project) : Except ProjectError ProjectScan := do
  let subject ← scanner.subject project
  return ⟨project, (scanner.analyzers project).map (·.analysis subject)⟩

/-- What becomes of a project that is started. -/
def turn (scanner : Scanner) (project : Project) : Turn :=
  match scanner.scanProject project with
  | .ok scan => .done scan
  | .error error => .failed ⟨project.name, error.message⟩

/-- Whether an analyzer cancels the scan when it looks at a project. -/
def interrupts (scanner : Scanner) (project : Project) : Bool :=
  match scanner.subject project with
  | .ok subject => (scanner.analyzers project).any (·.interrupts subject)
  | .error _ => false

/-- The scan of projects, one after the other, when it is over. -/
def scan (scanner : Scanner) (projects : List Project) (cancelled : Bool) : Progress :=
  Progress.run (scanner.config.workerCount 1) scanner.turn (eventsInOrder scanner.interrupts cancelled projects)
    (.initial projects cancelled)

end Scanner

end Checkup.Workspace
