/-!
# Complexity of files

What is kept of a project's files when their complexity is measured.
-/

namespace Checkup.Complexity

/-- One file with its complexity and its number of lines. -/
structure FileComplexity where
  path : String
  complexity : Nat
  lines : Nat
  deriving DecidableEq, Repr

/-- The files of a project and the limit that they are judged by. -/
structure Findings where
  files : List FileComplexity
  maxFileComplexity : Nat
  /-- Files that could not be read. -/
  skippedFiles : List String
  deriving DecidableEq, Repr

namespace Findings

/-- The files above the limit. -/
def overLimit (f : Findings) : List FileComplexity :=
  f.files.filter (f.maxFileComplexity < ·.complexity)

/-- The greatest complexity, 0 without files. -/
def greatest (f : Findings) : Nat :=
  (f.files.map (·.complexity)).foldl max 0

end Findings

end Checkup.Complexity
