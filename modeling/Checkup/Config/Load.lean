import Checkup.Config.Validate
import Checkup.Files.Tree
import Checkup.Yaml.Decode

/-!
# Loading a configuration

A configuration is a YAML file, either a given one or the first of a few names that a workspace holds. A
workspace without any has the default configuration.
-/

namespace Checkup.Config

/-- The names of a configuration in a workspace, in the order in which they are looked for. -/
def fileNames : List String := ["healthscan.yaml", ".healthscan.yaml", "healthscan.yml"]

/-- The configuration in a text. -/
def parse? (text : String) : Option (Config Float) := do
  Config.decode? (← Yaml.Node.ofText? text)

/-- Reads a configuration from a file. -/
def load (tree : Files.Tree) (path : String) : Except (ConfigError Float) (Config Float) :=
  match tree.readText path with
  | .error cause => .error (.unreadable path cause)
  | .ok text =>
    match parse? text with
    | some config => .ok config
    | none => .error (.malformed path)

/-- The path of the configuration of a workspace, if it has one. -/
def find? (tree : Files.Tree) (root : String) : Option String :=
  (fileNames.map (Files.Path.join root)).find? tree.isFile

/-- The configuration of a workspace, and its path if it has one. -/
def discover (tree : Files.Tree) (root : String) :
    Except (ConfigError Float) (Config Float × Option String) :=
  match find? tree root with
  | some path => (load tree path).map (·, some path)
  | none => .ok ({}, none)

end Checkup.Config
