/-!
# Command lines

A script is a sequence of commands that depend on one another's status. Words are made of parts, because
quotes and parameters may stand inside of them.
-/

namespace Checkup.Program

/-- A part of a word. -/
inductive Part where
  | text (text : String)
  /-- The number of the running shell. -/
  | processNumber
  /-- The status of the last command. -/
  | lastStatus
  /-- A variable, which splits into no words. -/
  | variable (name : String)
  deriving DecidableEq, Repr

/-- A word, before its parameters are put in. -/
abbrev Word := List Part

/-- Where a stream of a command goes. -/
inductive Redirection where
  /-- The stream goes where another one goes. -/
  | duplicate (stream target : Nat)
  /-- The stream goes to a file. -/
  | file (stream : Nat) (path : Word)
  deriving Repr

/-- A command. -/
inductive Command where
  | simple (words : List Word) (redirections : List Redirection)
  | group (body : Command) (redirections : List Redirection)
  | subshell (body : Command) (redirections : List Redirection)
  | both (first second : Command)
  | either (first second : Command)
  | inOrder (first second : Command)
  | negated (command : Command)
  | pipe (first second : Command)
  | nothing
  deriving Inhabited

/-- A token of a script. -/
inductive Lexeme where
  | word (word : Word)
  /-- A sign that separates commands, or a line break. -/
  | separator (text : String)
  | redirect (stream : Nat) (text : String)
  deriving Repr

/-- Whether a character may stand in the name of a variable. -/
def isNameChar (c : Char) : Bool :=
  c.isAlphanum || c = '_'

/-- Reads a parameter after its dollar sign. -/
def readParameter (cs : List Char) : Part × List Char :=
  match cs with
  | '$' :: rest => (.processNumber, rest)
  | '?' :: rest => (.lastStatus, rest)
  | '\x7b' :: rest =>
    let name := rest.takeWhile isNameChar
    (.variable (String.ofList name), (rest.dropWhile isNameChar).drop 1)
  | _ =>
    let name := cs.takeWhile isNameChar
    if name.isEmpty then (.text "$", cs) else (.variable (String.ofList name), cs.dropWhile isNameChar)

/-- Reads the inside of double quotes and the closing one. `fuel` is more than the length of the text. -/
def readDouble : (fuel : Nat) → List Char → Option (Word × List Char)
  | 0, _ => none
  | _, [] => none
  | fuel + 1, c :: rest =>
    if c = '"' then some ([], rest)
    else if c = '$' then
      let (part, rest) := readParameter rest
      (readDouble fuel rest).map fun (word, rest) => (part :: word, rest)
    else if c = '\\' then
      match rest with
      | d :: rest =>
        let text := if d = '"' || d = '\\' || d = '$' || d.toNat = 96 then d.toString else String.ofList ['\\', d]
        (readDouble fuel rest).map fun (word, rest) => (.text text :: word, rest)
      | [] => none
    else (readDouble fuel rest).map fun (word, rest) => (.text c.toString :: word, rest)

/-- Whether a character ends a word. -/
def endsWord (c : Char) : Bool :=
  [' ', '\t', '\n', ';', '&', '|', '<', '>', '(', ')'].contains c

/-- Reads a word. `fuel` is more than the length of the text. -/
def readWord : (fuel : Nat) → List Char → Option (Word × List Char)
  | 0, _ => none
  | _, [] => some ([], [])
  | fuel + 1, c :: rest =>
    if endsWord c then some ([], c :: rest)
    else if c = '\'' then
      let text := rest.takeWhile (· ≠ '\'')
      match rest.dropWhile (· ≠ '\'') with
      | _ :: rest => (readWord fuel rest).map fun (word, rest) => (.text (String.ofList text) :: word, rest)
      | [] => none
    else if c = '"' then do
      let (inner, rest) ← readDouble fuel rest
      let (word, rest) ← readWord fuel rest
      return (.text "" :: inner ++ word, rest)
    else if c = '$' then
      let (part, rest) := readParameter rest
      (readWord fuel rest).map fun (word, rest) => (part :: word, rest)
    else if c = '\\' then
      match rest with
      | d :: rest => (readWord fuel rest).map fun (word, rest) => (.text d.toString :: word, rest)
      | [] => some ([.text "\\"], [])
    else (readWord fuel rest).map fun (word, rest) => (.text c.toString :: word, rest)

/-- Reads a sign of redirection for a stream. -/
def readRedirect (stream : Option Nat) (cs : List Char) : Lexeme × List Char :=
  match cs with
  | '>' :: '&' :: rest => (.redirect (stream.getD 1) ">&", rest)
  | '>' :: '>' :: rest => (.redirect (stream.getD 1) ">", rest)
  | '>' :: '|' :: rest => (.redirect (stream.getD 1) ">", rest)
  | '>' :: rest => (.redirect (stream.getD 1) ">", rest)
  | _ :: rest => (.redirect (stream.getD 0) "<", rest)
  | [] => (.separator "", [])

/-- The tokens of a script. `fuel` is more than the length of the text. -/
def lexemes : (fuel : Nat) → List Char → Option (List Lexeme)
  | 0, _ => none
  | _, [] => some []
  | fuel + 1, c :: rest =>
    match c, rest with
    | '&', '&' :: rest => (lexemes fuel rest).map (.separator "&&" :: ·)
    | '|', '|' :: rest => (lexemes fuel rest).map (.separator "||" :: ·)
    | _, _ =>
      if c = ' ' || c = '\t' then lexemes fuel rest
      else if c = '#' then lexemes fuel (rest.dropWhile (· ≠ '\n'))
      else if c = ';' || c = '\n' || c = '&' then (lexemes fuel rest).map (.separator ";" :: ·)
      else if c = '|' || c = '(' || c = ')' then (lexemes fuel rest).map (.separator c.toString :: ·)
      else if c = '>' || c = '<' then
        let (lexeme, rest) := readRedirect none (c :: rest)
        (lexemes fuel rest).map (lexeme :: ·)
      else if c.isDigit && (rest.head? = some '>' || rest.head? = some '<') then
        let (lexeme, rest) := readRedirect (some (c.toNat - 48)) rest
        (lexemes fuel rest).map (lexeme :: ·)
      else do
        let (word, rest) ← readWord fuel (c :: rest)
        return .word word :: (← lexemes fuel rest)

/-- Whether a token is a separator. -/
def Lexeme.isSeparator (text : String) : Lexeme → Bool
  | separator other => other = text
  | _ => false

/-- Whether a token is a word without quotes and parameters. -/
def Lexeme.isBare (text : String) : Lexeme → Bool
  | word parts => parts = text.toList.map fun c => Part.text c.toString
  | _ => false

/-- Reads words and redirections. -/
def readSimple : List Lexeme → List Word × List Redirection × List Lexeme
  | .word word :: rest =>
    let (words, redirections, rest) := readSimple rest
    (word :: words, redirections, rest)
  | .redirect stream ">&" :: .word target :: rest =>
    let (words, redirections, rest) := readSimple rest
    let number := match target with
      | [.text text] => (text.toNat?).getD 1
      | _ => 1
    (words, .duplicate stream number :: redirections, rest)
  | .redirect stream _ :: .word path :: rest =>
    let (words, redirections, rest) := readSimple rest
    (words, .file stream path :: redirections, rest)
  | rest => ([], [], rest)

mutual

/-- Reads one command and what belongs to it. -/
def readCommand : (fuel : Nat) → List Lexeme → Option (Command × List Lexeme)
  | 0, _ => none
  | fuel + 1, lexemes =>
    match lexemes with
    | .separator "(" :: rest => do
      let (body, rest) ← readList fuel rest
      match rest with
      | .separator ")" :: rest =>
        let (words, redirections, rest) := readSimple rest
        if words.isEmpty then return (.subshell body redirections, rest) else none
      | _ => none
    | first :: rest =>
      if first.isBare "\x7b" then do
        let (body, rest) ← readList fuel rest
        match rest with
        | last :: rest =>
          let (words, redirections, rest) := readSimple rest
          if last.isBare "\x7d" && words.isEmpty then return (.group body redirections, rest) else none
        | [] => none
      else if first.isBare "!" then
        (readCommand fuel rest).map fun (command, rest) => (.negated command, rest)
      else
        let (words, redirections, after) := readSimple (first :: rest)
        if words.isEmpty && redirections.isEmpty then none else some (.simple words redirections, after)
    | [] => none

/-- Reads commands joined by bars. -/
def readPipe : (fuel : Nat) → List Lexeme → Option (Command × List Lexeme)
  | 0, _ => none
  | fuel + 1, lexemes => do
    let (first, rest) ← readCommand fuel lexemes
    match rest with
    | .separator "|" :: rest => (readPipe fuel rest).map fun (second, rest) => (.pipe first second, rest)
    | rest => return (first, rest)

/-- Reads commands joined by conditions on the status, after the command `first`. -/
def readConditions : (fuel : Nat) → (first : Command) → List Lexeme → Option (Command × List Lexeme)
  | 0, _, _ => none
  | fuel + 1, first, lexemes =>
    match lexemes with
    | .separator "&&" :: rest => do
      let (second, rest) ← readPipe fuel (rest.dropWhile (·.isSeparator ";"))
      readConditions fuel (.both first second) rest
    | .separator "||" :: rest => do
      let (second, rest) ← readPipe fuel (rest.dropWhile (·.isSeparator ";"))
      readConditions fuel (.either first second) rest
    | rest => some (first, rest)

/-- Reads a list of commands. -/
def readList : (fuel : Nat) → List Lexeme → Option (Command × List Lexeme)
  | 0, _ => none
  | fuel + 1, lexemes =>
    match lexemes.dropWhile (·.isSeparator ";") with
    | [] => some (.nothing, [])
    | first :: rest =>
      if first.isSeparator ")" || first.isBare "\x7d" then some (.nothing, first :: rest)
      else do
        let (command, rest) ← readPipe fuel (first :: rest)
        let (command, rest) ← readConditions fuel command rest
        match rest with
        | .separator ";" :: rest => do
          let (others, rest) ← readList fuel rest
          return (.inOrder command others, rest)
        | rest => return (command, rest)

end

/-- The command that a script is. -/
def Command.parse? (script : String) : Option Command := do
  let lexemes ← lexemes (script.length + 2) script.toList
  let (command, rest) ← readList (6 * lexemes.length + 6) lexemes
  if rest.isEmpty then some command else none

end Checkup.Program
