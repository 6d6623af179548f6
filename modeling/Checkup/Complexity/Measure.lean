import Checkup.Complexity.Language
import Checkup.Files.Source
import Checkup.Text.Lines

/-!
# Complexity of a project
-/

namespace Checkup.Complexity

/-- A source file with its complexity, if it can be read. -/
def measure? (source : Files.Source) : Option FileComplexity :=
  source.text?.map fun text => {
    path := source.path
    complexity := ofSource source.extension text.toList
    lines := (Text.lines text.toList).length }

/-- What is found out about source files, to be judged by a limit. -/
def Findings.ofSources (limit : Nat) (sources : List Files.Source) : Findings where
  files := sources.filterMap measure?
  maxFileComplexity := limit
  skippedFiles := Files.unreadable sources

end Checkup.Complexity
