import Checkup.Text.Blank

/-!
# Declared dependencies

What a project's manifest declares, and what is known about newer releases.
-/

namespace Checkup.Dependency

/-- One declared dependency. -/
structure Entry where
  name : String
  /-- The version requirement as written, empty when there is none. -/
  version : String
  /-- Whether it is needed for development only. -/
  dev : Bool
  deriving DecidableEq, Repr

/-- The requirements that every version meets. -/
def anyVersion : List String := ["", "*", "latest", "x", "next"]

/-- Whether the requirement, blanks around it apart, is one that every version meets. -/
def Entry.isUnpinned (e : Entry) : Bool :=
  anyVersion.contains (String.ofList (Text.trim e.version.toList))

/-- The dependencies of a project. -/
structure Findings where
  /-- The name of the manifest. -/
  manifest : String
  entries : List Entry
  /-- The packages with a newer release. -/
  outdated : List String
  /-- Whether newer releases were looked for. -/
  outdatedChecked : Bool
  maxDependencies : Nat
  deriving DecidableEq, Repr

namespace Findings

/-- The number of dependencies that are not for development only. -/
def directCount (f : Findings) : Nat :=
  (f.entries.filter (!·.dev)).length

/-- The number of dependencies for development only. -/
def devCount (f : Findings) : Nat :=
  (f.entries.filter (·.dev)).length

/-- The dependencies that every version satisfies. -/
def unpinned (f : Findings) : List Entry :=
  f.entries.filter Entry.isUnpinned

/-- By how much the direct dependencies exceed their maximum. -/
def excess (f : Findings) : Nat :=
  f.directCount - f.maxDependencies

end Findings

end Checkup.Dependency
