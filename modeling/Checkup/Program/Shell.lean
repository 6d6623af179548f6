import Checkup.Files.Tree
import Checkup.Program.Output
import Checkup.Program.Syntax

/-!
# Running commands

A few programs are known here: those that print, test and end, and a shell that joins them. A command sees the
files of a tree; what it writes is seen by the commands after it and gone when it ends.
-/

namespace Checkup.Program

open Files (Tree FileError)

/-- Where a stream goes. -/
inductive Target where
  | stdout
  | stderr
  | file (path : String)
  deriving DecidableEq, Repr

/-- The state of a shell. -/
structure Shell where
  tree : Tree
  /-- The path of the current directory. -/
  directory : String
  status : Nat
  bindings : List (String × String)
  /-- How the shell has ended, if it has. -/
  ended : Option Ending
  stdout : List UInt8
  stderr : List UInt8

/-- What a simple command does: what it prints to two streams, and its status. -/
structure Result where
  stdout : List UInt8 := []
  stderr : List UInt8 := []
  status : Nat := 0

/-! ### Printing -/

/-- The octal number at the start of a text, of up to `most` digits, and the text after it. -/
def readOctal (most : Nat) (cs : List Char) : Nat × List Char :=
  let digits := (cs.take most).takeWhile fun c => '0' ≤ c && c ≤ '7'
  (digits.foldl (fun n c => 8 * n + (c.toNat - 48)) 0, cs.drop digits.length)

/-- The character that an escape of one letter stands for. -/
def escapeByte? (c : Char) : Option UInt8 :=
  match c with
  | 'a' => some 7
  | 'b' => some 8
  | 'f' => some 12
  | 'n' => some 10
  | 'r' => some 13
  | 't' => some 9
  | 'v' => some 11
  | '\\' => some 92
  | _ => none

/-- The bytes of a text with escapes, and whether an escape ended the output. In a format an octal number
needs no zero in front, and a quote may be escaped. -/
def unescape (inFormat : Bool) : (fuel : Nat) → List Char → List UInt8 × Bool
  | 0, _ => ([], false)
  | _, [] => ([], false)
  | fuel + 1, '\\' :: c :: rest =>
    match escapeByte? c with
    | some byte =>
      let (bytes, stop) := unescape inFormat fuel rest
      (byte :: bytes, stop)
    | none =>
      if c = 'c' && !inFormat then ([], true)
      else if c = '0' || (inFormat && '0' ≤ c && c ≤ '7') then
        let (code, after) := if inFormat then readOctal 3 (c :: rest) else readOctal 3 rest
        let (bytes, stop) := unescape inFormat fuel after
        (code.toUInt8 :: bytes, stop)
      else if inFormat && c = '"' then
        let (bytes, stop) := unescape inFormat fuel rest
        (34 :: bytes, stop)
      else
        let (bytes, stop) := unescape inFormat fuel rest
        (92 :: Text.encode c.toString ++ bytes, stop)
  | fuel + 1, c :: rest =>
    let (bytes, stop) := unescape inFormat fuel rest
    (Text.encode c.toString ++ bytes, stop)

/-- What the shell's own `echo` prints. -/
def echo (arguments : List String) : List UInt8 :=
  let (line, arguments) := match arguments with
    | "-n" :: rest => (false, rest)
    | rest => (true, rest)
  let text := " ".intercalate arguments
  let (bytes, stop) := unescape false (text.length + 1) text.toList
  bytes ++ (if line && !stop then [10] else [])

/-- What the program `echo` prints, which knows more options. -/
def echoProgram (arguments : List String) : List UInt8 :=
  let isOption := fun (text : String) =>
    match text.toList with
    | '-' :: letters => !letters.isEmpty && letters.all (['n', 'e', 'E'].contains ·)
    | _ => false
  let options := arguments.takeWhile isOption
  let text := " ".intercalate (arguments.dropWhile isOption)
  let letters := options.flatMap (·.toList)
  let escapes := (letters.filter fun c => c = 'e' || c = 'E').getLast? = some 'e'
  let (bytes, stop) := if escapes then unescape false (text.length + 1) text.toList else (Text.encode text, false)
  bytes ++ (if letters.contains 'n' || stop then [] else [10])

/-- A format with its first arguments put in, and the arguments that are left. -/
def fillFormat : List Char → List String → List Char × List String
  | '%' :: '%' :: rest, arguments =>
    let (text, arguments) := fillFormat rest arguments
    ('%' :: text, arguments)
  | '%' :: c :: rest, arguments =>
    if c = 's' || c = 'd' || c = 'i' || c = 'b' then
      let value := arguments.head?.getD (if c = 's' || c = 'b' then "" else "0")
      let hidden := value.toList.flatMap fun c => if c = '\\' then ['\\', '\\'] else [c]
      let (text, arguments) := fillFormat rest (arguments.drop 1)
      (hidden ++ text, arguments)
    else
      let (text, arguments) := fillFormat rest arguments
      ('%' :: c :: text, arguments)
  | c :: rest, arguments =>
    let (text, arguments) := fillFormat rest arguments
    (c :: text, arguments)
  | [], arguments => ([], arguments)

/-- A format filled again as long as arguments are left. -/
def fillFormats (format : List Char) : (fuel : Nat) → List String → List Char
  | 0, _ => []
  | fuel + 1, arguments =>
    let (text, rest) := fillFormat format arguments
    if rest.isEmpty || rest.length = arguments.length then text else text ++ fillFormats format fuel rest

/-- What `printf` prints. -/
def printf (arguments : List String) : List UInt8 :=
  match arguments with
  | [] => []
  | format :: rest =>
    let text := fillFormats format.toList (rest.length + 1) rest
    (unescape true (text.length + 1) text).1

/-! ### Files and conditions -/

/-- The bytes of the file that a path leads to. -/
def readBytes (tree : Tree) (path : String) : Except FileError (List UInt8) := do
  match ← tree.resolve path with
  | (_, .file (.text text)) => return Text.encode text
  | (_, .file (.raw bytes)) => return bytes
  | (_, .file (.sealed _ cause)) | (_, .sealed cause) => .error cause
  | (_, .directory _) => .error .isDirectory

/-- The wording of an error without its number. -/
def reason : FileError → String
  | .missing => "No such file or directory"
  | .isDirectory => "Is a directory"
  | .notDirectory => "Not a directory"
  | .exists => "File exists"
  | .notText => "Invalid or incomplete multibyte or wide character"
  | .denied => "Permission denied"
  | .failing => "Input/output error"

/-- What `cat` prints, given what comes in. -/
def cat (tree : Tree) (directory : String) (input : List UInt8) (paths : List String) : Result :=
  if paths.isEmpty then { stdout := input }
  else paths.foldl (fun result path =>
    if path = "-" then { result with stdout := result.stdout ++ input }
    else
      match readBytes tree (Files.Path.join directory path) with
      | .ok bytes => { result with stdout := result.stdout ++ bytes }
      | .error e =>
        { result with stderr := result.stderr ++ Text.encode s!"cat: {path}: {reason e}\n", status := 1 }) {}

/-- Whether a condition holds; `none` if it is none. -/
def condition? (tree : Tree) (directory : String) (arguments : List String) : Option Bool :=
  let place := Files.Path.join directory
  match arguments with
  | [] => some false
  | [text] => some (text ≠ "")
  | ["!", text] => some (text = "")
  | ["-n", text] => some (text ≠ "")
  | ["-z", text] => some (text = "")
  | ["-d", path] => some (tree.isDirectory (place path))
  | ["-f", path] => some (tree.isFile (place path))
  | ["-e", path] | ["-r", path] => some (tree.isDirectory (place path) || tree.isFile (place path))
  | ["-s", path] =>
    some (match readBytes tree (place path) with
      | .ok bytes => !bytes.isEmpty
      | .error _ => tree.isDirectory (place path))
  | ["!", operator, operand] => (condition? tree directory [operator, operand]).map (!·)
  | [a, "=", b] => some (a = b)
  | [a, "!=", b] => some (a ≠ b)
  | [a, "-eq", b] => do return (← a.toInt?) = (← b.toInt?)
  | [a, "-ne", b] => do return (← a.toInt?) ≠ (← b.toInt?)
  | [a, "-lt", b] => do return (← a.toInt?) < (← b.toInt?)
  | [a, "-le", b] => do return (← a.toInt?) ≤ (← b.toInt?)
  | [a, "-gt", b] => do return (← b.toInt?) < (← a.toInt?)
  | [a, "-ge", b] => do return (← b.toInt?) ≤ (← a.toInt?)
  | _ => none

/-- The number of a signal, by its name or its number. -/
def signalNumber? (text : String) : Option Nat :=
  match text.toNat? with
  | some n => some n
  | none => (Ending.signalNames.find? fun signal => signal.2 = text || signal.2 = "SIG" ++ text).map (·.1)

/-- The number of the shell, which only the shell itself is told by. -/
def processNumber : String := "4242"

/-- The signal that `kill` sends to the shell, if it does. -/
def killSignal? (arguments : List String) : Option Nat :=
  let (signal, processes) := match arguments with
    | "-s" :: name :: rest => (signalNumber? name, rest)
    | option :: rest =>
      match option.toList with
      | '-' :: name => (signalNumber? (String.ofList name), rest)
      | _ => (some 15, option :: rest)
    | [] => (none, [])
  if processes.contains processNumber then signal else none

/-! ### The shell -/

namespace Shell

/-- The text of a word with its parameters put in. -/
def expand (s : Shell) (word : Word) : String :=
  String.join <| word.map fun
    | .text text => text
    | .processNumber => processNumber
    | .lastStatus => toString s.status
    | .variable name => (s.bindings.lookup name).getD ""

/-- Where the first and the second stream of a command go. -/
def targets (s : Shell) (redirections : List Redirection) : Target × Target :=
  redirections.foldl (fun (out, err) redirection =>
    match redirection with
    | .duplicate 1 2 => (err, err)
    | .duplicate 2 1 => (out, out)
    | .duplicate _ _ => (out, err)
    | .file 1 path => (.file (Files.Path.join s.directory (s.expand path)), err)
    | .file 2 path => (out, .file (Files.Path.join s.directory (s.expand path)))
    | .file _ _ => (out, err)) (.stdout, .stderr)

/-- The bytes that come into a command: those of the last file that its first stream is read from. -/
def input (s : Shell) (given : List UInt8) (redirections : List Redirection) : List UInt8 :=
  redirections.foldl (fun given redirection =>
    match redirection with
    | .file 0 path => ((readBytes s.tree (Files.Path.join s.directory (s.expand path))).toOption).getD []
    | _ => given) given

/-- The shell after bytes have gone to a target. -/
def send (s : Shell) (target : Target) (bytes : List UInt8) : Shell :=
  match target with
  | .stdout => { s with stdout := s.stdout ++ bytes }
  | .stderr => { s with stderr := s.stderr ++ bytes }
  | .file path =>
    if path = "/dev/null" then s
    else
      match s.tree.writeText path (String.ofList (Text.decode bytes)) with
      | .ok tree => { s with tree := tree }
      | .error _ => s

/-- What a simple command does that changes nothing in the shell. -/
def run (s : Shell) (given : List UInt8) (program : String) (arguments : List String) : Result :=
  match program with
  | "echo" => { stdout := echo arguments }
  | "printf" => { stdout := printf arguments }
  | "cat" => cat s.tree s.directory given arguments
  | "true" | ":" | "sleep" => {}
  | "false" => { status := 1 }
  | "pwd" => { stdout := Text.encode (s.directory ++ "\n") }
  | "test" =>
    match condition? s.tree s.directory arguments with
    | some holds => { status := if holds then 0 else 1 }
    | none => { status := 2 }
  | "[" =>
    match condition? s.tree s.directory arguments.dropLast with
    | some holds => { status := if holds then 0 else 1 }
    | none => { status := 2 }
  | "kill" => {}
  | _ => { stderr := Text.encode s!"sh: 1: {program}: not found\n", status := 127 }

/-- The name and the value of a word that sets a variable. -/
def assignment? (text : String) : Option (String × String) :=
  let cs := text.toList
  match cs.dropWhile isNameChar with
  | '=' :: value =>
    let name := cs.takeWhile isNameChar
    if name.isEmpty || (name.head?).any Char.isDigit then none
    else some (String.ofList name, String.ofList value)
  | _ => none

/-- The shell after a simple command. -/
def simple (s : Shell) (given : List UInt8) (words : List Word) (redirections : List Redirection) : Shell :=
  let texts := words.map s.expand
  let assignments := texts.filterMap assignment?
  match texts.dropWhile fun text => (assignment? text).isSome with
  | [] => { s with bindings := assignments ++ s.bindings, status := 0 }
  | program :: arguments =>
    match program with
    | "exit" =>
      let code := ((arguments.head?.bind String.toNat?).getD s.status) % 256
      { s with status := code, ended := some (.status code) }
    | "cd" =>
      let path := Files.Path.join s.directory (arguments.head?.getD "/")
      if s.tree.isDirectory path then { s with directory := path, status := 0 }
      else
        let place := arguments.head?.getD ""
        { s.send .stderr (Text.encode s!"sh: 1: cd: can't cd to {place}\n") with status := 2 }
    | _ =>
      let (out, err) := s.targets redirections
      let result := s.run (s.input given redirections) program arguments
      let s := { (s.send out result.stdout).send err result.stderr with status := result.status }
      match (if program = "kill" then killSignal? arguments else none) with
      | some 0 => s
      | some signal => { s with ended := some (.signal signal) }
      | none => s

/-- The shell after a command, given the bytes that come in. A command after the end does nothing. -/
def eval (s : Shell) (given : List UInt8) : Command → Shell
  | .nothing => s
  | .simple words redirections => if s.ended.isSome then s else s.simple given words redirections
  | .inOrder first second => (s.eval given first).eval given second
  | .both first second =>
    let s := s.eval given first
    if s.status = 0 then s.eval given second else s
  | .either first second =>
    let s := s.eval given first
    if s.status = 0 then s else s.eval given second
  | .negated command =>
    let s := s.eval given command
    { s with status := if s.status = 0 then 1 else 0 }
  | .pipe first second =>
    if s.ended.isSome then s
    else
      let inner := { s with stdout := [] }.eval given first
      { s with stderr := inner.stderr, tree := inner.tree }.eval inner.stdout second
  | .group body redirections =>
    if s.ended.isSome then s
    else
      let (out, err) := s.targets redirections
      let inner := { s with stdout := [], stderr := [] }.eval (s.input given redirections) body
      ({ inner with stdout := s.stdout, stderr := s.stderr }.send out inner.stdout).send err inner.stderr
  | .subshell body redirections =>
    if s.ended.isSome then s
    else
      let (out, err) := s.targets redirections
      let inner := { s with stdout := [], stderr := [] }.eval (s.input given redirections) body
      let s := ({ s with tree := inner.tree }.send out inner.stdout).send err inner.stderr
      match inner.ended with
      | some (.status code) => { s with status := code }
      | some (.signal number) => { s with ended := some (.signal number) }
      | none => { s with status := inner.status }

end Shell

/-- The output of a script that is run in a directory. -/
def runScript (tree : Tree) (directory script : String) : Output :=
  match Command.parse? script with
  | none => ⟨[], Text.encode "sh: 1: Syntax error\n", .status 2⟩
  | some command =>
    let s := ({ tree, directory, status := 0, bindings := [], ended := none, stdout := [], stderr := [] :
      Shell }).eval [] command
    ⟨s.stdout, s.stderr, s.ended.getD (.status s.status)⟩

/-- The output of a program that is run as a command of its own. -/
def Output.ofResult (result : Result) : Output :=
  ⟨result.stdout, result.stderr, .status result.status⟩

/-- What comes of a command that is run on the files of a tree. -/
def outputOf (tree : Tree) (directory : String) (command : List String) : Except RunError Output :=
  match command with
  | "sh" :: "-c" :: script :: _ => .ok (runScript tree directory script)
  | ["sh", "-c"] => .ok ⟨[], Text.encode "sh: 0: -c requires an argument\n", .status 2⟩
  | "sh" :: file :: _ =>
    match tree.readText (Files.Path.join directory file) with
    | .ok script => .ok (runScript tree directory script)
    | .error _ => .ok ⟨[], Text.encode s!"sh: 0: cannot open {file}: No such file\n", .status 2⟩
  | ["sh"] => .ok ⟨[], [], .status 0⟩
  | "cat" :: paths => .ok (.ofResult (cat tree directory [] paths))
  | "echo" :: arguments => .ok ⟨echoProgram arguments, [], .status 0⟩
  | "true" :: _ => .ok ⟨[], [], .status 0⟩
  | "false" :: _ => .ok ⟨[], [], .status 1⟩
  | _ => .error (.notStarted .missing)

/-- Runs commands on the files of a tree, and tasks behind those of four workers. -/
def runner (tree : Tree) : Runner where
  output := outputOf tree
  task _ := 5

end Checkup.Program
