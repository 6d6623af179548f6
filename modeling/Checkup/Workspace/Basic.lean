import Checkup.Analysis

/-!
# Projects

A workspace is made of projects. A project has a name, a kind and a directory, and in the directory a
manifest, by which it is recognized.
-/

namespace Checkup.Workspace

/-- Whether a project is deployed or used by others. -/
inductive ProjectKind where
  | application
  | library
  deriving DecidableEq, Repr

/-- The name of a kind. -/
def ProjectKind.name : ProjectKind → String
  | .application => "application"
  | .library => "library"

/-- A project of a workspace. -/
structure Project where
  name : String
  kind : ProjectKind
  /-- The path of its directory. -/
  root : String
  deriving DecidableEq, Repr

/-- The manifests that make a directory a project. -/
inductive ManifestKind where
  | packageJson
  | cargoToml
  | projectJson
  | pyProject
  | goMod
  deriving DecidableEq, Repr

namespace ManifestKind

/-- All manifests, in the order in which they are looked for. -/
def all : List ManifestKind := [packageJson, cargoToml, projectJson, pyProject, goMod]

/-- The name of a manifest's file. -/
def fileName : ManifestKind → String
  | packageJson => "package.json"
  | cargoToml => "Cargo.toml"
  | projectJson => "project.json"
  | pyProject => "pyproject.toml"
  | goMod => "go.mod"

/-- The name of a kind of manifest. -/
def name : ManifestKind → String
  | packageJson => "package-json"
  | cargoToml => "cargo-toml"
  | projectJson => "project-json"
  | pyProject => "py-project"
  | goMod => "go-mod"

end ManifestKind

/-- What is known about a project once its directory has been looked at. -/
structure Metadata where
  /-- The path of its directory, without detours. -/
  root : String
  /-- The path of its manifest. -/
  manifest : String
  manifestKind : ManifestKind
  packageName : Option String
  version : Option String
  deriving DecidableEq, Repr

/-- A project that could not be scanned, and why. -/
structure FailedProject where
  name : String
  error : String
  deriving DecidableEq, Repr

/-- A project with what its analyzers found out, in the order in which they were asked. -/
structure ProjectScan where
  project : Project
  analyses : List Analysis
  deriving DecidableEq, Repr

/-- What a scan of a workspace comes to. -/
structure Outcome where
  /-- The projects scanned, by ascending name. -/
  projects : List ProjectScan
  failed : List FailedProject
  /-- Whether projects were left out because the scan was cancelled. -/
  isPartial : Bool
  deriving DecidableEq, Repr

end Checkup.Workspace
