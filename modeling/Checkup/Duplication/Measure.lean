import Checkup.Duplication.Detect
import Checkup.Files.Source

/-!
# Duplicates of a project
-/

namespace Checkup.Duplication

/-- A source file with its text, if it can be read. -/
def SourceFile.ofSource? (source : Files.Source) : Option SourceFile :=
  source.text?.map fun text => ⟨source.path, text⟩

/-- What is found out about source files. -/
def Findings.ofSources (settings : Settings) (sources : List Files.Source) : Except Overflow Findings :=
  Findings.ofFiles settings (sources.filterMap SourceFile.ofSource?) (Files.unreadable sources)

end Checkup.Duplication
