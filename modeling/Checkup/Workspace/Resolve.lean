import Checkup.Files.Tree
import Checkup.Json.Decode
import Checkup.Json.Reader
import Checkup.Text.Lines
import Checkup.Toml.Reader
import Checkup.Workspace.Basic

/-!
# Resolving a project

A project is resolved by the first manifest that its directory holds. The manifest may also tell the name and
the version of the project; if it cannot be understood they stay unknown.
-/

namespace Checkup.Workspace

/-- Why a project is not scanned. -/
inductive ProjectError where
  | missing (root : String)
  | notDirectory (root : String)
  | noManifest (root : String)
  | inaccessible (root : String) (cause : Files.FileError)
  deriving DecidableEq, Repr

/-- The wording of an error. -/
def ProjectError.message : ProjectError → String
  | missing root => s!"project path {Files.Path.shown root} does not exist"
  | notDirectory root => s!"project path {Files.Path.shown root} is not a directory"
  | noManifest root => s!"no project manifest found in {Files.Path.shown root}"
  | inaccessible root cause => s!"cannot access {Files.Path.shown root}: {cause.message}"

/-! ### Identity -/

/-- The name and the version that a project gives itself. -/
abbrev Identity := Option String × Option String

/-- The identity in a JSON manifest. -/
def identityOfJson (text : String) : Identity :=
  match (Json.parseSound? text.toList).map Json.normalizeMembers with
  | some (.object members) =>
    let textOf := fun key => (Json.member? key members).bind Json.string?
    (textOf "name", textOf "version")
  | _ => (none, none)

/-- The identity in a section of a TOML manifest. -/
def identityOfToml (sectionName text : String) : Identity :=
  let manifest := (Toml.parse? text).bind (·.get? sectionName)
  let textOf := fun key => (manifest.bind (·.get? key)).bind Toml.Value.string?
  (textOf "name", textOf "version")

/-- The word in front of the name of a Go module, with the blank after it. -/
def moduleWord : List Char := ['m', 'o', 'd', 'u', 'l', 'e', ' ']

/-- The identity of a Go module, which has no version. -/
def identityOfModule (text : String) : Identity :=
  let name := (Text.lines text.toList).findSome? fun line => moduleWord.isPrefixOf? (Text.trim line)
  (name.map fun name => String.ofList (Text.trim name), none)

/-- The identity in the text of a manifest. -/
def identityOf (kind : ManifestKind) (text : String) : Identity :=
  match kind with
  | .packageJson | .projectJson => identityOfJson text
  | .cargoToml => identityOfToml "package" text
  | .pyProject => identityOfToml "project" text
  | .goMod => identityOfModule text

/-! ### Resolution -/

/-- The first manifest in a directory, by kind and path. -/
def manifest? (tree : Files.Tree) (root : String) : Option (ManifestKind × String) :=
  (ManifestKind.all.map fun kind => (kind, Files.Path.join root kind.fileName)).find? fun (_, path) =>
    tree.isFile path

/-- What is known about a project in a directory. -/
def resolve (tree : Files.Tree) (directory : String) : Except ProjectError Metadata :=
  match tree.canonical directory with
  | .error .missing => .error (.missing directory)
  | .error cause => .error (.inaccessible directory cause)
  | .ok root =>
    if !tree.isDirectory root then .error (.notDirectory root)
    else
      match manifest? tree root with
      | none => .error (.noManifest root)
      | some (kind, path) =>
        let identity := match tree.readText path with
          | .ok text => identityOf kind text
          | .error _ => (none, none)
        .ok ⟨root, path, kind, identity.1, identity.2⟩

end Checkup.Workspace
