import Checkup.Toml.Scalar
import Checkup.Toml.Value

/-!
# Reading TOML

`parse?` reads a document. Readers take the text from where they stand and give the rest; those for values
carry fuel, of which the length of the text is enough, and the depth of nesting, which is limited.
-/

namespace Checkup.Toml

/-- Whether a character is a blank within a line. -/
def isSpace (c : Char) : Bool :=
  c = ' ' || c = '\t'

/-- Whether a character may stand in a comment or, but for its delimiters, in a string. -/
def isAllowed (c : Char) : Bool :=
  c = '\t' || (32 ≤ c.toNat && c.toNat ≠ 127)

/-- The text without the blanks at its start. -/
def skipSpace (cs : List Char) : List Char :=
  cs.dropWhile isSpace

/-- The text after a line break. -/
def afterBreak? : List Char → Option (List Char)
  | '\n' :: rest => some rest
  | '\r' :: '\n' :: rest => some rest
  | _ => none

/-- The text after a comment, if there is one. -/
def skipComment : List Char → List Char
  | '#' :: rest => rest.dropWhile isAllowed
  | cs => cs

/-- The text after blanks, comments and line breaks. `fuel` is more than the length of the text. -/
def skipGap : (fuel : Nat) → List Char → List Char
  | 0, cs => cs
  | fuel + 1, cs =>
    let after := skipComment (skipSpace cs)
    match afterBreak? after with
    | some rest => skipGap fuel rest
    | none => after

/-- The text after the blanks and the comment that may end a line, and after its break. -/
def endLine? (cs : List Char) : Option (List Char) :=
  match skipComment (skipSpace cs) with
  | [] => some []
  | rest => afterBreak? rest

/-! ### Strings -/

/-- The character of a code point in so many hexadecimal digits. -/
def readCode (count : Nat) (cs : List Char) : Option (Char × List Char) := do
  let digits := cs.take count
  guard (digits.length = count && digits.all isHex)
  let n := digitsValue 16 digits
  guard (!(0xD800 ≤ n && n ≤ 0xDFFF) && n ≤ 0x10FFFF)
  return (Char.ofNat n, cs.drop count)

/-- The character that an escape stands for, after the backslash. -/
def readEscape : List Char → Option (Char × List Char)
  | 'b' :: rest => some (Char.ofNat 8, rest)
  | 't' :: rest => some ('\t', rest)
  | 'n' :: rest => some ('\n', rest)
  | 'f' :: rest => some (Char.ofNat 12, rest)
  | 'r' :: rest => some ('\r', rest)
  | '"' :: rest => some ('"', rest)
  | '\\' :: rest => some ('\\', rest)
  | 'u' :: rest => readCode 4 rest
  | 'U' :: rest => readCode 8 rest
  | _ => none

/-- Reads a string on one line after its opening quote. `fuel` is more than the length of the text. -/
def readLine (quote : Char) : (fuel : Nat) → List Char → Option (List Char × List Char)
  | 0, _ => none
  | _, [] => none
  | fuel + 1, c :: rest =>
    if c = quote then some ([], rest)
    else if c = '\\' && quote = '"' then
      match readEscape rest with
      | some (char, rest) => (readLine quote fuel rest).map fun (text, rest) => (char :: text, rest)
      | none => none
    else if isAllowed c then (readLine quote fuel rest).map fun (text, rest) => (c :: text, rest)
    else none

/-- Reads a string over several lines after its opening quotes and the break right behind them. A backslash at
the end of a line drops the break and all blanks up to the next word. -/
def readLines (quote : Char) : (fuel : Nat) → List Char → Option (List Char × List Char)
  | 0, _ => none
  | _, [] => none
  | fuel + 1, c :: rest =>
    if c = quote then
      let quotes := (c :: rest).takeWhile (· = quote)
      let after := (c :: rest).dropWhile (· = quote)
      if 5 < quotes.length then none
      else if 3 ≤ quotes.length then some (quotes.drop 3, after)
      else (readLines quote fuel after).map fun (text, rest) => (quotes ++ text, rest)
    else if c = '\\' && quote = '"' then
      match afterBreak? (skipSpace rest) with
      | some after =>
        readLines quote fuel (after.dropWhile fun c => isSpace c || c = '\n' || c = '\r')
      | none =>
        match readEscape rest with
        | some (char, rest) => (readLines quote fuel rest).map fun (text, rest) => (char :: text, rest)
        | none => none
    else
      match afterBreak? (c :: rest) with
      | some rest => (readLines quote fuel rest).map fun (text, rest) => ('\n' :: text, rest)
      | none =>
        if isAllowed c then (readLines quote fuel rest).map fun (text, rest) => (c :: text, rest) else none

/-- Reads a string, quotes and all. -/
def readString (cs : List Char) : Option (String × List Char) :=
  let finish := fun (text, rest) => (String.ofList text, rest)
  match cs with
  | a :: b :: c :: rest =>
    if a = b && b = c && (a = '"' || a = '\'') then
      (readLines a (rest.length + 1) ((afterBreak? rest).getD rest)).map finish
    else if a = '"' || a = '\'' then (readLine a cs.length (b :: c :: rest)).map finish
    else none
  | a :: rest => if a = '"' || a = '\'' then (readLine a cs.length rest).map finish else none
  | [] => none

/-! ### Keys -/

/-- Whether a character may stand in a key without quotes. -/
def isKeyChar (c : Char) : Bool :=
  c.isAlphanum || c = '_' || c = '-'

/-- Reads one part of a key. A quoted part stands on one line. -/
def readKeyPart (cs : List Char) : Option (String × List Char) :=
  match cs with
  | '"' :: rest => (readLine '"' cs.length rest).map fun (text, rest) => (String.ofList text, rest)
  | '\'' :: rest => (readLine '\'' cs.length rest).map fun (text, rest) => (String.ofList text, rest)
  | _ =>
    let text := cs.takeWhile isKeyChar
    if text.isEmpty then none else some (String.ofList text, cs.dropWhile isKeyChar)

/-- Reads a key: its parts with dots between them, and blanks around each. -/
def readKey : (fuel : Nat) → List Char → Option (List String × List Char)
  | 0, _ => none
  | fuel + 1, cs => do
    let (part, rest) ← readKeyPart (skipSpace cs)
    match skipSpace rest with
    | '.' :: rest => do
      let (parts, rest) ← readKey fuel rest
      return (part :: parts, rest)
    | rest => return ([part], rest)

/-- The deepest nesting of values and the most parts of a key, and one more. -/
def depthLimit : Nat := 80

/-! ### Values -/

/-- Whether a character may stand in a scalar. -/
def isScalarChar (c : Char) : Bool :=
  c.isAlphanum || c = '_' || c = '-' || c = '+' || c = '.' || c = ':'

/-- Reads a scalar. A blank may stand between a date and a time. -/
def readScalar (cs : List Char) : Option (String × List Char) :=
  let first := cs.takeWhile isScalarChar
  let after := cs.dropWhile isScalarChar
  let (word, rest) :=
    match after with
    | ' ' :: c :: rest =>
      if afterDate first = some [] && c.isDigit then
        (first ++ ' ' :: (c :: rest).takeWhile isScalarChar, (c :: rest).dropWhile isScalarChar)
      else (first, after)
    | _ => (first, after)
  if isScalar word then some (String.ofList word, rest) else none

mutual

/-- Reads a value. -/
def readValue : (fuel depth : Nat) → List Char → Option (Value × List Char)
  | 0, _, _ => none
  | fuel + 1, depth, cs =>
    match cs with
    | '[' :: rest =>
      if depth + 1 < depthLimit then
        (readItems fuel (depth + 1) rest).map fun (items, rest) => (.array items, rest)
      else none
    | '\x7b' :: rest =>
      if depth + 1 < depthLimit then
        match skipSpace rest with
        | '\x7d' :: rest => some (.table [], rest)
        | rest => (readMembers fuel (depth + 1) ⟨.header, []⟩ rest).map fun (t, rest) =>
            (.table (entriesToValues t.entries), rest)
      else none
    | c :: _ =>
      if c = '"' || c = '\'' then (readString cs).map fun (text, rest) => (.string text, rest)
      else (readScalar cs).map fun (text, rest) => (.scalar text, rest)
    | [] => none

/-- Reads the items of an array and its end. -/
def readItems : (fuel depth : Nat) → List Char → Option (List Value × List Char)
  | 0, _, _ => none
  | fuel + 1, depth, cs =>
    match skipGap (cs.length + 1) cs with
    | ']' :: rest => some ([], rest)
    | start => do
      let (item, rest) ← readValue fuel depth start
      match skipGap (rest.length + 1) rest with
      | ']' :: rest => return ([item], rest)
      | ',' :: rest => do
        let (items, rest) ← readItems fuel depth rest
        return (item :: items, rest)
      | _ => none

/-- Reads the entries of a table in braces and its end; all stand on one line. -/
def readMembers : (fuel depth : Nat) → Table → List Char → Option (Table × List Char)
  | 0, _, _, _ => none
  | fuel + 1, depth, t, cs => do
    let (key, rest) ← readKey fuel cs
    guard (key.length < depthLimit)
    match rest with
    | '=' :: rest => do
      let (value, rest) ← readValue fuel depth (skipSpace rest)
      let t ← t.add key.dropLast (key.getLast?.getD "") value
      match skipSpace rest with
      | '\x7d' :: rest => return (t, rest)
      | ',' :: rest => readMembers fuel depth t rest
      | _ => none
    | _ => none

end

/-! ### Documents -/

/-- Reads the lines of a document from a place on, with the table that was opened at `opened`. -/
def readDocument : (fuel : Nat) → (opened : List String) → Table → List Char → Option Table
  | 0, _, _, _ => none
  | fuel + 1, opened, t, cs =>
    match skipSpace cs with
    | [] => some t
    | '[' :: '[' :: rest => do
      let (key, rest) ← readKey fuel rest
      guard (key.length < depthLimit)
      match rest with
      | ']' :: ']' :: rest =>
        readDocument fuel key (← t.openTables key.dropLast (key.getLast?.getD "")) (← endLine? rest)
      | _ => none
    | '[' :: rest => do
      let (key, rest) ← readKey fuel rest
      guard (key.length < depthLimit)
      match rest with
      | ']' :: rest =>
        readDocument fuel key (← t.openTable key.dropLast (key.getLast?.getD "")) (← endLine? rest)
      | _ => none
    | c :: rest =>
      if c = '#' || c = '\n' || c = '\r' then do
        readDocument fuel opened t (← endLine? (c :: rest))
      else do
        let (key, rest) ← readKey fuel (c :: rest)
        guard (key.length < depthLimit)
        match rest with
        | '=' :: rest => do
          let (value, rest) ← readValue fuel 0 (skipSpace rest)
          let t ← t.changeOpened (·.add key.dropLast (key.getLast?.getD "") value) opened
          readDocument fuel opened t (← endLine? rest)
        | _ => none

/-- The table of a document. A byte-order mark may stand in front of it. -/
def parse? (text : String) : Option Value :=
  let cs := text.toList
  let cs := if cs.head?.any (·.toNat == 0xFEFF) then cs.drop 1 else cs
  (readDocument (cs.length + 2) [] ⟨.header, []⟩ cs).map fun t => .table (entriesToValues t.entries)

end Checkup.Toml
