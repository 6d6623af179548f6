import Checkup.Files.Tree
import Checkup.Glob.Match

/-!
# Source files

The source files of a project are those below its directory with an extension of a language, outside of
directories that hold nothing of the project's own, and not excluded. They come in the order of paths.
-/

namespace Checkup.Files

/-- The extensions of source files. -/
def sourceExtensions : List String := [
  "ts", "tsx", "js", "jsx", "mjs", "cjs", "vue", "svelte", "rs", "py", "go", "java", "kt", "scala", "swift",
  "c", "cpp", "h", "hpp", "cs"]

/-- The directories that hold what others wrote or what a build has made. -/
def foreignDirectories : List String :=
  ["node_modules", "vendor", "target", "dist", "build", "coverage", "out", "__pycache__"]

/-- Whether a directory is left out by its name. -/
def isForeign (name : String) : Bool :=
  let name := Path.shown name
  name.startsWith "." || foreignDirectories.contains name

/-- The extension of the file at a place. -/
def placeExtension (place : List String) : String :=
  (place.getLast?.map Path.nameExtension).getD ""

/-- A source file: its place below the project, and its content. -/
@[ext]
structure Source where
  place : List String
  content : Content
  deriving DecidableEq, Repr

/-- The path of a source file below the project, as it is shown. Files with names that are no text may be shown
alike. -/
def Source.path (source : Source) : String :=
  Path.shown ("/".intercalate source.place)

/-- The extension of a source file. -/
def Source.extension (source : Source) : String :=
  placeExtension source.place

/-- The source files below a directory, in the order of paths. -/
def sources (excluded : Glob.Exclusion) (extensions : List String) (directory : Node) : List Source :=
  let files := directory.walk isForeign []
  let wanted := files.filter fun (place, _) =>
    extensions.contains (placeExtension place) && !excluded.excludes ("/".intercalate place)
  let ordered := wanted.mergeSort fun a b => !Path.isBefore b.1 a.1
  ordered.map fun (place, content) => ⟨place, content⟩

/-- The text of a source file, if it is one. -/
def Source.text? (source : Source) : Option String :=
  match source.content with
  | .text text => some text
  | _ => none

/-- The paths of the source files that hold no text. -/
def unreadable (sources : List Source) : List String :=
  (sources.filter (·.text?.isNone)).map (·.path)

end Checkup.Files
