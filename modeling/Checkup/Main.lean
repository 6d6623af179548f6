import Checkup.Command.Run
import Checkup.Command.Usage
import Checkup.Program.Shell

/-!
# The program

Reads the command line and the files that the command may look at, runs the command on them, and then prints
and writes what it has left behind.
-/

namespace Checkup.Main

open Files

/-- The content of a file with these bytes. -/
def contentOf (bytes : ByteArray) : Content :=
  match String.fromUTF8? bytes with
  | some text => .text text
  | none => .raw bytes.toList

/-- Why something that is there cannot be used, if the error says so. -/
def sealing? : IO.Error → Option FileError
  | .permissionDenied .. => some .denied
  | .hardwareFault .. => some .failing
  | _ => none

/-- A node that is read, or the sealed one in its place if it is there and cannot be used. -/
def readOrSealed (read : IO Node) (whenSealed : FileError → Node) : IO (Option Node) := do
  try
    return some (← read)
  catch error => return (sealing? error).map whenSealed

/-- The file or directory at a path as it is now, if there is one; nothing else is looked at. -/
partial def snapshot (path : String) : IO (Option Node) := do
  let start ← IO.FS.realPath path
  let metadata ← start.symlinkMetadata
  match metadata.type with
  | .file =>
    readOrSealed (return .file (contentOf (← IO.FS.readBinFile start))) fun cause =>
      .file (.sealed metadata.byteSize.toNat cause)
  | .dir =>
    let read := do
      let mut entries := []
      for entry in ← start.readDir do
        let node ← try
            if (← entry.path.symlinkMetadata).type == .symlink then pure none
            else snapshot (Path.join path entry.fileName)
          catch _ => pure none
        if let some node := node then
          entries := Node.insertEntry entry.fileName node entries
      return .directory entries
    readOrSealed read .sealed
  | _ => return none

/-- A tree with what is at a path at its place; what cannot be read is left out. -/
def addSnapshot (root : Node) (path : String) : IO Node := do
  try
    let place := Path.components (← IO.FS.realPath path).toString
    match ← snapshot (Path.ofComponents place) with
    | some node => return Node.put node place root
    | none => return root
  catch _ => return root

/-- A tree that has a directory where there is one at a path; its entries are not looked at. -/
def addDirectory (root : Node) (path : String) : IO Node := do
  try
    let found ← IO.FS.realPath path
    let isKnown := Tree.isDirectory ⟨root, "/"⟩ found.toString
    if isKnown || (← found.metadata).type != .dir then return root
    return Node.put (.directory []) (Path.components found.toString) root
  catch _ => return root

/-- The paths that a command may read from. -/
def inputs : Command.Action → List String
  | .init _ => []
  | .scan arguments => arguments.config.toList ++ arguments.previous.toList ++ [arguments.root]

/-- The files that a command may look at. -/
def treeFor (action : Command.Action) : IO Tree := do
  let current := (← IO.currentDir).toString
  let outputs := (action.target?.toList).map (Path.join current)
  let looked := if (inputs action).isEmpty then outputs
    else (inputs action).map (Path.join current) ++ outputs ++ [current]
  let root ← looked.foldlM addSnapshot (.directory [])
  let above := outputs.map fun output => (Path.parent? output).getD "/"
  return ⟨← (current :: above).foldlM addDirectory root, current⟩

/-- The present time: when a file that has just been made was made. -/
def now : IO Time.Timestamp := do
  let (_, file) ← IO.FS.createTempFile
  let time := (← file.metadata).modified
  IO.FS.removeFile file
  return .ofSeconds time.sec time.nsec.toNat

/-- Writes the file of a command if the command has changed it. -/
def store (action : Command.Action) (old new : Tree) : IO Unit := do
  if let some path := action.target? then
    if let .ok text := new.readText path then
      if (old.readText path).toOption != some text then
        if action matches .init _ then
          if let some parent := Path.parent? path then
            if parent != "" then IO.FS.createDirAll parent
        IO.FS.writeFile path text

/-- Runs a command; the answer is the code to end with. -/
def perform (action : Command.Action) : IO Nat := do
  let tree ← treeFor action
  let colored ← (← IO.getStdout).isTty
  let result := Command.run ⟨tree, Program.runner tree, ← now, colored⟩ action
  store action tree result.tree
  IO.print result.stdout
  IO.eprint result.stderr
  match result.ending with
  | .ok code => return code
  | .error cause =>
    IO.eprintln ("Error: " ++ cause.message)
    return Command.errorCode

end Checkup.Main

/-- The program. -/
def main (words : List String) : IO UInt32 := do
  match Checkup.Command.Line.parse words with
  | .ok line =>
    try
      return (← Checkup.Main.perform line.action).toUInt32
    catch error =>
      IO.eprintln ("Error: " ++ error.toString)
      return Checkup.Command.errorCode.toUInt32
  | .error error =>
    if error.isAnswer then IO.print error.message else IO.eprint error.message
    return error.code.toUInt32
