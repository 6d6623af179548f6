import Checkup.Assets.Basic
import Checkup.Files.Tree
import Checkup.Number.Word

/-!
# Assets of a project

The assets are the files of the build output that a page loads. Each directory of the output is walked as a
whole; an asset that lies below two of them is found twice. An asset is listed under its path as it is shown.
-/

namespace Checkup.Assets

/-- The extensions of assets. -/
def assetExtensions : List String := ["js", "mjs", "cjs", "css"]

/-- The assets below a directory of a project with some root. -/
def below (tree : Files.Tree) (root directory : String) : List Asset :=
  let output := Files.Path.join root (Files.Path.ofText directory)
  match tree.resolve output with
  | .ok (_, .directory entries) =>
    let files := (Files.Node.directory entries).walk (fun _ => false) []
    let assets := files.filter fun (place, _) =>
      assetExtensions.contains (Files.Path.nameExtension ((place.getLast?).getD ""))
    assets.map fun (place, content) =>
      let path := Files.Path.relative root (Files.Path.join output ("/".intercalate place))
      ⟨Files.Path.shown path, content.size⟩
  | _ => []

/-- Whether an asset is listed no later than another: the larger first, and of one size by path. -/
def precedes (a b : Asset) : Bool :=
  b.bytes < a.bytes || a.bytes = b.bytes && a.path ≤ b.path

/-- The assets below some directories of a project, the largest first. -/
def collect (tree : Files.Tree) (root : String) (directories : List String) : List Asset :=
  (directories.flatMap (below tree root)).mergeSort precedes

/-- The number of bytes of some assets. -/
def totalSize (assets : List Asset) : Except Overflow Nat :=
  assets.foldlM (fun total asset => Word.add total asset.bytes) 0

/-- What is found out about assets, to be judged by a budget in units of 1024 bytes. -/
def Findings.ofAssets (budgetKb : Nat) (assets : List Asset) : Except Overflow Findings := do
  return ⟨assets, ← totalSize assets, ← Word.mul budgetKb 1024⟩

end Checkup.Assets
