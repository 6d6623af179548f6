import Checkup.Analyzer.Basic
import Checkup.Assets.Collect
import Checkup.Complexity.Measure
import Checkup.Dependency.Manifest
import Checkup.Dependency.Outdated
import Checkup.Duplication.Measure
import Checkup.Escapes.Scan

/-!
# The built-in analyzers

Duplication, complexity, dependencies, emitted assets and escapes from the type system. Only applications
emit assets; the others are for every project.
-/

namespace Checkup.Analyzer

/-- An analyzer for every kind of project that stops no scan. -/
def general (name : String) (analyze : Subject → Except Failure Findings) : Analyzer where
  name := name
  supports _ := true
  analyze := analyze
  interrupts _ := false

/-- Looks for duplicates among the source files, in a task of its own. -/
def duplication : Analyzer :=
  general AnalyzerName.duplication fun subject =>
    let task := subject.run.task subject.metadata.root
    let found := Duplication.Findings.ofSources subject.config.duplication subject.sources
    (Failure.ofOverflow (.ofTask task) found).map .duplication

/-- Measures the complexity of the source files. -/
def complexity : Analyzer :=
  general AnalyzerName.complexity fun subject =>
    .ok (.complexity (.ofSources subject.config.complexity.maxFileComplexity subject.sources))

/-! ### Dependencies -/

/-- The dependencies that the manifest of a project declares. -/
def declaredBy (subject : Subject) : Except Failure (List Dependency.Entry) :=
  let manifest := subject.metadata.manifest
  match subject.tree.readText manifest with
  | .error cause => .error (.refusal s!"cannot read {Files.Path.shown manifest}: {cause.message}")
  | .ok text => (Dependency.declared subject.metadata.manifestKind text).mapError (.refusal ·.message)

/-- The outdated packages of a project, and whether they were looked for, which needs a command. -/
def outdatedOf (subject : Subject) : Except Failure (List String × Bool) :=
  let command := subject.config.dependency.outdatedCommand
  if command.isEmpty then .ok ([], false)
  else
    match Dependency.outdated subject.run subject.metadata.root command with
    | .ok names => .ok (names, true)
    | .error error => .error (.refusal error.message)

/-- Reads the manifest and looks for outdated packages. -/
def dependency : Analyzer :=
  general AnalyzerName.dependency fun subject => do
    let entries ← declaredBy subject
    let (names, looked) ← outdatedOf subject
    return .dependency {
      manifest := subject.metadata.manifestKind.fileName
      entries := entries
      outdated := names
      outdatedChecked := looked
      maxDependencies := subject.config.dependency.maxDependencies }

/-! ### Assets and escapes -/

/-- Measures the assets of an application; there have to be some. -/
def bundleSize : Analyzer where
  name := AnalyzerName.bundleSize
  supports kind := kind = .application
  analyze subject :=
    let settings := subject.config.bundle
    let assets := Assets.collect subject.tree subject.metadata.root settings.outputDirs
    if assets.isEmpty then
      let directories := ", ".intercalate settings.outputDirs
      .error (.refusal s!"no build output found in {directories} (run the build first)")
    else (Failure.ofOverflow .breakdown (Assets.Findings.ofAssets settings.budgetKb assets)).map .bundleSize
  interrupts _ := false

/-- Looks for escapes from the type system in the source files. -/
def typeSafety : Analyzer :=
  general AnalyzerName.typeSafety fun subject =>
    .ok (.typeSafety (.ofSources subject.sources))

end Checkup.Analyzer

namespace Checkup

/-- The built-in analyzers. -/
def Registry.builtIn : Registry :=
  [.duplication, .complexity, .dependency, .bundleSize, .typeSafety]

end Checkup
