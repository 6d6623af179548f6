import Checkup.Files.Error
import Checkup.Files.Path

/-!
# File trees

A file tree as it is at one moment: directories with named entries, and files with their contents. A file may
be there without its content being readable, and a directory without its entries being known: it is *sealed*,
and whoever asks for them gets the reason. A path is resolved step by step from the root or from the current
directory (`Tree.resolve`); every prefix of it has to be a directory that can be entered. Names need not be texts: they
are written as in paths (`Files.Path`), and ascend by their bytes.

There are no symbolic links, and nothing besides files and directories.
-/

namespace Checkup.Files

/-- What a file holds. -/
inductive Content where
  | text (text : String)
  /-- Bytes that are no text. -/
  | raw (bytes : List UInt8)
  /-- So many bytes that cannot be read, and why. -/
  | sealed (size : Nat) (cause : FileError)
  deriving DecidableEq, Repr

/-- The number of bytes of a file. -/
def Content.size : Content → Nat
  | text value => value.utf8ByteSize
  | raw bytes => bytes.length
  | sealed size _ => size

/-- What stands at a place of a file tree. -/
inductive Node where
  | file (content : Content)
  /-- A directory with its entries, in ascending order of names. -/
  | directory (entries : List (String × Node))
  /-- A directory that can neither be listed nor entered, and why. -/
  | sealed (cause : FileError)
  deriving Inhabited

namespace Node

/-- Whether a node is a directory. -/
def isDirectory : Node → Bool
  | directory _ => true
  | file _ => false
  | sealed _ => true

/-- Entries with one more, in the place of the one of its name if there is one. -/
def insertEntry (name : String) (node : Node) : List (String × Node) → List (String × Node)
  | [] => [(name, node)]
  | (other, old) :: rest =>
    if name = other then (name, node) :: rest
    else if Path.bytes name < Path.bytes other then (name, node) :: (other, old) :: rest
    else (other, old) :: insertEntry name node rest

/-- The node with another one put at a place below it; directories on the way are made. Nothing is put below
a file or a sealed directory. -/
def put (new : Node) : List String → Node → Node
  | [], _ => new
  | name :: path, directory entries =>
    directory (insertEntry name (put new path ((entries.lookup name).getD (directory []))) entries)
  | _ :: _, file content => file content
  | _ :: _, sealed cause => sealed cause

/-- The node without the one at a place below it, if that exists. -/
def remove? : List String → Node → Option Node
  | [], _ => none
  | [name], directory entries =>
    if (entries.lookup name).isSome then some (directory (entries.filter (·.1 != name))) else none
  | name :: path, directory entries => do
    let child ← remove? path (← entries.lookup name)
    return directory (insertEntry name child entries)
  | _ :: _, file _ => none
  | _ :: _, sealed _ => none

mutual

/-- The files below a node, with their components, for a node at `place`. Directories whose name `prune`
rejects are not entered, and sealed ones are passed over. -/
def walk (prune : String → Bool) (place : List String) : Node → List (List String × Content)
  | file content => [(place, content)]
  | directory entries => walkEntries prune place entries
  | sealed _ => []

/-- The files in and below some entries of a directory at `place`. -/
def walkEntries (prune : String → Bool) (place : List String) :
    List (String × Node) → List (List String × Content)
  | [] => []
  | (name, node) :: rest =>
    (if node.isDirectory && prune name then [] else walk prune (place ++ [name]) node)
      ++ walkEntries prune place rest

end

end Node

/-- A file tree and the directory that relative paths start from. -/
structure Tree where
  root : Node
  /-- The path of the current directory. -/
  current : String

namespace Tree

/-- The names passed on the way to a place, the last first, with the nodes there. -/
abbrev Trail := List (String × Node)

/-- The node at the end of a trail. -/
def Trail.node (root : Node) (trail : Trail) : Node :=
  (trail.head?.map (·.2)).getD root

/-- One step along a path. -/
def step (root : Node) (trail : Trail) (name : String) : Except FileError Trail :=
  match Trail.node root trail with
  | .file _ => .error .notDirectory
  | .sealed cause => if name = "" then .ok trail else .error cause
  | .directory entries =>
    if name = "" || name = "." then .ok trail
    else if name = ".." then .ok trail.tail
    else
      match entries.lookup name with
      | some node => .ok ((name, node) :: trail)
      | none => .error .missing

/-- Follows the steps of a path from the root or the current directory. -/
def follow (t : Tree) (path : String) (steps : List String) : Except FileError Trail := do
  let start ← if Path.isAbsolute path then .ok []
    else (Path.steps t.current).foldlM (step t.root) []
  steps.foldlM (step t.root) start

/-- The place and the node that a path leads to. -/
def resolve (t : Tree) (path : String) : Except FileError (List String × Node) := do
  if path = "" then .error .missing
  let trail ← t.follow path (Path.steps path)
  return ((trail.map (·.1)).reverse, Trail.node t.root trail)

/-- The path from the root, without detours, of what a path leads to. -/
def canonical (t : Tree) (path : String) : Except FileError String :=
  (t.resolve path).map fun (place, _) => Path.ofComponents place

/-- Whether a path leads to a directory. -/
def isDirectory (t : Tree) (path : String) : Bool :=
  match t.resolve path with
  | .ok (_, node) => node.isDirectory
  | .error _ => false

/-- Whether a path leads to a file. -/
def isFile (t : Tree) (path : String) : Bool :=
  match t.resolve path with
  | .ok (_, .file _) => true
  | _ => false

/-- The text of the file that a path leads to. -/
def readText (t : Tree) (path : String) : Except FileError String := do
  match ← t.resolve path with
  | (_, .file (.text text)) => .ok text
  | (_, .file (.raw _)) => .error .notText
  | (_, .file (.sealed _ cause)) | (_, .sealed cause) => .error cause
  | (_, .directory _) => .error .isDirectory

/-- The entries of the directory that a path leads to. -/
def entries (t : Tree) (path : String) : Except FileError (List (String × Node)) := do
  match ← t.resolve path with
  | (_, .directory entries) => .ok entries
  | (_, .file _) => .error .notDirectory
  | (_, .sealed cause) => .error cause

/-- Whether a path leads to anything. -/
def holds (t : Tree) (path : String) : Bool :=
  (t.resolve path).isOk

/-- The place that a new entry has under the last of some steps of a path; the directory before it has to
exist. -/
def placeOfNew (t : Tree) (path : String) (steps : List String) : Except FileError (List String) := do
  let trail ← t.follow path steps.dropLast
  match Trail.node t.root trail, steps.getLast? with
  | .directory _, some name => return (trail.map (·.1)).reverse ++ [name]
  | .sealed cause, _ => .error cause
  | _, _ => .error .notDirectory

/-- The place that a file has or will have when it is written to a path. -/
def placeToWrite (t : Tree) (path : String) : Except FileError (List String) :=
  let steps := Path.steps path
  let last := (steps.getLast?).getD ""
  match t.resolve path with
  | .ok (_, .file (.sealed _ cause)) => .error cause
  | .ok (place, .file _) => .ok place
  | .ok (_, .directory _) | .ok (_, .sealed _) => .error .isDirectory
  | .error cause =>
    if path = "" || last = "." || last = ".." then .error cause
    else if last = "" then do
      let _ ← t.placeOfNew path (steps.reverse.dropWhile (· = "")).reverse
      .error .isDirectory
    else if cause = .missing then t.placeOfNew path steps
    else .error cause

/-- The tree with a text written to a path; the directory has to exist. -/
def writeText (t : Tree) (path text : String) : Except FileError Tree := do
  let place ← t.placeToWrite path
  return { t with root := Node.put (.file (.text text)) place t.root }

/-- The tree with a new directory at a path; the directory above it has to exist. -/
def makeDirectory (t : Tree) (path : String) : Except FileError Tree := do
  match t.resolve path with
  | .ok _ => .error .exists
  | .error .missing =>
    let place ← t.placeOfNew path (Path.trimIdle (Path.steps path))
    return { t with root := Node.put (.directory []) place t.root }
  | .error cause => .error cause

/-- The tree with a directory at the first of some paths, each of which is above the one before it. A
directory is made after the one above it if that is missing. -/
def makeAll (t : Tree) : List String → Except FileError Tree
  | [] => .error .missing
  | path :: above =>
    let made := fun (t : Tree) => if t.isDirectory path then .ok t else t.makeDirectory path
    match made t with
    | .error .missing => do made (← t.makeAll above)
    | other => other

/-- The tree with a directory at a path and all directories on the way. -/
def makeDirectories (t : Tree) (path : String) : Except FileError Tree :=
  let steps := Path.steps path
  t.makeAll ((List.range steps.length).map fun n => "/".intercalate (steps.take (steps.length - n)))

end Tree

end Checkup.Files
