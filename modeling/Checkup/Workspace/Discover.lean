import Checkup.Config.Basic
import Checkup.Files.Tree
import Checkup.Text.Quoted
import Checkup.Workspace.Basic

/-!
# Discovery of projects

The projects of a workspace are the directories one level below its group directories: the applications
first, then the libraries, each group by name. A project is named as its directory is shown, and directories
with names that are no text may be shown alike. A name that is taken already is preceded by its group. A
workspace without any project is a project itself.

* `discover` — the projects of a workspace.
* `select` — all of them, or the one with a wanted name.
-/

namespace Checkup.Workspace

/-- Why the projects of a workspace are not known. -/
inductive DiscoveryError where
  | notDirectory (root : String)
  | unreadable (path : String) (cause : Files.FileError)
  /-- There is no project of the wanted name among those available. -/
  | unknownProject (name : String) (available : List String)
  deriving DecidableEq, Repr

/-- The wording of an error. -/
def DiscoveryError.message : DiscoveryError → String
  | notDirectory root => s!"workspace root {Files.Path.shown root} is not a directory"
  | unreadable path cause => s!"cannot read {Files.Path.shown path}: {cause.message}"
  | unknownProject name available =>
    let names := ", ".intercalate available
    s!"unknown project {Text.quoted name} (available: {names})"

/-- The names of the directories in a directory, ascending, without the hidden ones. -/
def childDirectories (tree : Files.Tree) (path : String) : Except DiscoveryError (List String) :=
  match tree.entries path with
  | .error cause => .error (.unreadable path cause)
  | .ok entries =>
    let visible := entries.filter fun (name, node) =>
      node.isDirectory && !(Files.Path.shown name).startsWith "."
    .ok (visible.map (·.1))

/-- The group directories of a workspace with the kind of their projects. -/
def groups (layout : Layout) : List (String × ProjectKind) :=
  layout.applications.map (·, .application) ++ layout.libraries.map (·, .library)

/-- The path of a group directory. -/
def groupPath (root group : String) : String :=
  Files.Path.join root (Files.Path.ofText group)

/-- The directories of a group's projects. A group that is not there has none. -/
def groupDirectories (tree : Files.Tree) (root group : String) :
    Except DiscoveryError (List String) :=
  let path := groupPath root group
  if tree.isDirectory path then childDirectories tree path else .ok []

/-- The name of a project by its directory as it is shown: with its group in front if the name is taken. -/
def projectName (taken : List String) (group directory : String) : String :=
  if taken.contains directory then s!"{group}/{directory}" else directory

/-- Projects with one more, in a directory of a group. -/
def addProject (root group : String) (kind : ProjectKind) (projects : List Project) (directory : String) :
    List Project :=
  let name := projectName (projects.map (·.name)) group (Files.Path.shown directory)
  projects ++ [⟨name, kind, Files.Path.join (groupPath root group) directory⟩]

/-- The workspace as a project. -/
def wholeWorkspace (tree : Files.Tree) (root : String) : Project :=
  let name := match tree.canonical root with
    | .ok path => ((Files.Path.fileName? path).map Files.Path.shown).getD "workspace"
    | .error _ => "workspace"
  ⟨name, .application, root⟩

/-- The projects in the groups of a workspace. -/
def groupedProjects (tree : Files.Tree) (root : String) (layout : Layout) :
    Except DiscoveryError (List Project) :=
  (groups layout).foldlM (fun projects (group, kind) => do
    return (← groupDirectories tree root group).foldl (addProject root group kind) projects) []

/-- The projects of a workspace. -/
def discover (tree : Files.Tree) (root : String) (layout : Layout) :
    Except DiscoveryError (List Project) := do
  if !tree.isDirectory root then .error (.notDirectory root)
  let projects ← groupedProjects tree root layout
  return if projects.isEmpty then [wholeWorkspace tree root] else projects

/-- All projects, or the one with a wanted name. -/
def select (projects : List Project) (wanted : Option String) : Except DiscoveryError (List Project) :=
  match wanted with
  | none => .ok projects
  | some name =>
    match projects.find? (·.name == name) with
    | some project => .ok [project]
    | none => .error (.unknownProject name (projects.map (·.name)))

end Checkup.Workspace
