import Checkup.Dependency.GoMod
import Checkup.Dependency.Requirement
import Checkup.Entries
import Checkup.Json.Decode
import Checkup.Json.Reader
import Checkup.Toml.Reader
import Checkup.Workspace.Basic

/-!
# Dependencies in manifests

What each kind of manifest declares. Within a section the dependencies come by name; sections of other shape
than expected declare nothing.
-/

namespace Checkup.Dependency

open Workspace (ManifestKind)

/-- Why a manifest gives no dependencies. -/
inductive ManifestError where
  | malformed (kind : ManifestKind)
  /-- Manifests of this kind declare none. -/
  | declaresNone (kind : ManifestKind)
  deriving DecidableEq, Repr

/-- The wording of an error. What is wrong in a malformed manifest is not worded. -/
def ManifestError.message : ManifestError → String
  | malformed kind => s!"invalid {kind.fileName}"
  | declaresNone kind => s!"{kind.fileName} does not declare dependencies"

/-! ### JSON manifests -/

/-- The sections of a JSON manifest, and whether they are for development only. -/
def jsonSections : List (String × Bool) :=
  [("dependencies", false), ("peerDependencies", false), ("devDependencies", true)]

/-- The dependencies of a section, which is an object from names to versions. -/
def jsonEntries (manifest : Json) (sectionName : String) (dev : Bool) : List Entry :=
  match manifest with
  | .object members =>
    match Json.member? sectionName members with
    | some (.object entries) =>
      entries.map fun (name, version) => ⟨name, (version.string?).getD "", dev⟩
    | _ => []
  | _ => []

/-- The dependencies of a JSON manifest. -/
def ofJson? (text : String) : Option (List Entry) := do
  let manifest := (← Json.parseSound? text.toList).normalizeMembers
  return jsonSections.flatMap fun (name, dev) => jsonEntries manifest name dev

/-! ### TOML manifests -/

/-- The sections of a TOML manifest, and whether they are for development only. -/
def tomlSections : List (String × Bool) :=
  [("dependencies", false), ("build-dependencies", false), ("dev-dependencies", true)]

/-- The keys that say where a dependency comes from instead of which version it has. -/
def sourceKeys : List String := ["path", "git", "workspace"]

/-- The version that a TOML manifest gives for a dependency. -/
def tomlVersion (value : Toml.Value) : String :=
  match value with
  | .string version => version
  | .table entries =>
    match (value.get? "version").bind Toml.Value.string? with
    | some version => version
    | none => if entries.any fun entry => sourceKeys.contains entry.1 then "local" else ""
  | _ => ""

/-- The dependencies of a section, which is a table by names. -/
def tomlEntries (manifest : Toml.Value) (sectionName : String) (dev : Bool) : List Entry :=
  match (manifest.get? sectionName).bind Toml.Value.table? with
  | some entries => (Entries.sort entries).map fun (name, value) => ⟨name, tomlVersion value, dev⟩
  | none => []

/-- The dependencies of a TOML manifest. -/
def ofToml? (text : String) : Option (List Entry) := do
  let manifest ← Toml.parse? text
  return tomlSections.flatMap fun (name, dev) => tomlEntries manifest name dev

/-- The dependencies of a TOML manifest that lists requirements. -/
def ofRequirements? (text : String) : Option (List Entry) := do
  let manifest ← Toml.parse? text
  let requirements := ((manifest.get? "project").bind (·.get? "dependencies")).bind Toml.Value.array?
  return ((requirements.getD []).filterMap Toml.Value.string?).map Entry.ofRequirement

/-! ### All kinds -/

/-- The dependencies that a manifest declares. -/
def declared (kind : ManifestKind) (text : String) : Except ManifestError (List Entry) :=
  let checked := fun (entries : Option (List Entry)) =>
    match entries with
    | some entries => .ok entries
    | none => .error (.malformed kind)
  match kind with
  | .packageJson => checked (ofJson? text)
  | .cargoToml => checked (ofToml? text)
  | .pyProject => checked (ofRequirements? text)
  | .goMod => .ok (GoMod.entries text.toList)
  | .projectJson => .error (.declaresNone kind)

end Checkup.Dependency
