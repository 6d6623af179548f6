import Checkup.Yaml.Cursor

/-!
# Scalars

The five ways to write a scalar, read to its text:

* *plain* (`readPlain`) — as it stands, over several lines if they are indented;
* *single-quoted* and *double-quoted* (`readQuoted`) — the latter with escapes;
* *literal* and *folded* blocks (`readBlock`) — indented lines, kept or joined.

Lines are joined in the same way everywhere but in literal blocks: one break becomes a space, and of several
breaks the first is dropped.
-/

namespace Checkup.Yaml

/-- How a scalar is written. -/
inductive Style where
  | plain
  | singleQuoted
  | doubleQuoted
  | literal
  | folded
  deriving DecidableEq, Repr

/-- The text of a scalar read so far, and the blanks and breaks since its last word; all with the latest
first. -/
structure Folding where
  text : List Char
  blanks : List Char
  /-- Whether a line has ended since the last word. -/
  onNewLine : Bool
  /-- The first break since the last word; an escaped break is none. -/
  firstBreak : Option Char
  breaks : List Char

namespace Folding

/-- Nothing read. -/
def empty : Folding := ⟨[], [], false, none, []⟩

/-- The text with the blanks and breaks since the last word joined to it. -/
def join (f : Folding) : Folding :=
  let text :=
    if f.onNewLine then
      match f.firstBreak with
      | some '\n' => if f.breaks.isEmpty then ' ' :: f.text else f.breaks ++ f.text
      | some char => f.breaks ++ char :: f.text
      | none => f.breaks ++ f.text
    else f.blanks ++ f.text
  { empty with text := text }

/-- One more character of a word. -/
def push (f : Folding) (char : Char) : Folding :=
  let f := f.join
  { f with text := char :: f.text }

/-- One more blank, which does not count at the start of a line. -/
def pushBlank (f : Folding) (char : Char) : Folding :=
  if f.onNewLine then f else { f with blanks := char :: f.blanks }

/-- One more break. -/
def pushBreak (f : Folding) (char : Char) : Folding :=
  if f.onNewLine then { f with breaks := char :: f.breaks }
  else { f with blanks := [], onNewLine := true, firstBreak := some char }

/-- The text of the words. -/
def finish (f : Folding) : String :=
  String.ofList f.text.reverse

end Folding

/-! ### Plain scalars -/

/-- Whether a character ends a plain scalar inside brackets. -/
def isFlowIndicator (c : Char) : Bool :=
  c = ',' || c = '[' || c = ']' || c = '\x7b' || c = '\x7d'

/-- Reads on in a plain scalar: in a word if `inWord`, and between words otherwise. `inFlow` tells whether it
stands inside brackets, and `indent` is the least column of its later lines. -/
def readPlainFrom (inFlow : Bool) (indent : Int) :
    (fuel : Nat) → (inWord : Bool) → Cursor → Folding → Option (Cursor × Folding)
  | 0, _, _, _ => none
  | fuel + 1, true, c, f =>
    match c.rest with
    | [] => some (c, f)
    | char :: _ =>
      if isBlank char || isBreak char then readPlainFrom inFlow indent fuel false c f
      else if inFlow && char = ':' && (c.peek? 1).any (fun n => isFlowIndicator n || n = '?') then none
      else if (char = ':' && c.endsWordAt 1) || (inFlow && isFlowIndicator char) then some (c, f)
      else readPlainFrom inFlow indent fuel true c.next (f.push char)
  | fuel + 1, false, c, f =>
    match c.rest with
    | [] => some (c, f)
    | char :: _ =>
      if isBlank char then
        if f.onNewLine && c.column < indent && char = '\t' then none
        else readPlainFrom inFlow indent fuel false c.next (f.pushBlank char)
      else if isBreak char then readPlainFrom inFlow indent fuel false c.next (f.pushBreak char)
      else if !inFlow && c.column < indent then some (c, f)
      else if c.atDocumentMark || char = '#' then some (c, f)
      else readPlainFrom inFlow indent fuel true c f

/-- Reads a plain scalar: its text, whether a line ended after it, and the place behind it. -/
def readPlain (inFlow : Bool) (indent : Int) (c : Cursor) : Option (String × Bool × Cursor) := do
  let (after, f) ← readPlainFrom inFlow indent (2 * c.rest.length + 2) true c .empty
  return (f.finish, f.onNewLine, after)

/-! ### Quoted scalars -/

/-- The value of a hexadecimal digit. -/
def hexDigit? (c : Char) : Option Nat :=
  if '0' ≤ c && c ≤ '9' then some (c.toNat - 48)
  else if 'a' ≤ c && c ≤ 'f' then some (c.toNat - 87)
  else if 'A' ≤ c && c ≤ 'F' then some (c.toNat - 55)
  else none

/-- The character that an escape of one letter stands for. -/
def simpleEscape? (c : Char) : Option Char :=
  match c with
  | '0' => some (Char.ofNat 0)
  | 'a' => some (Char.ofNat 7)
  | 'b' => some (Char.ofNat 8)
  | 't' => some '\t'
  | '\t' => some '\t'
  | 'n' => some '\n'
  | 'v' => some (Char.ofNat 11)
  | 'f' => some (Char.ofNat 12)
  | 'r' => some '\r'
  | 'e' => some (Char.ofNat 27)
  | ' ' => some ' '
  | '"' => some '"'
  | '/' => some '/'
  | '\\' => some '\\'
  | 'N' => some (Char.ofNat 0x85)
  | '_' => some (Char.ofNat 0xA0)
  | 'L' => some (Char.ofNat 0x2028)
  | 'P' => some (Char.ofNat 0x2029)
  | _ => none

/-- The number of hexadecimal digits after the letter of an escape by code point. -/
def codeDigits? (c : Char) : Option Nat :=
  match c with
  | 'x' => some 2
  | 'u' => some 4
  | 'U' => some 8
  | _ => none

/-- The character that an escape stands for, and the number of its characters after the backslash. -/
def readEscape (cs : List Char) : Option (Char × Nat) :=
  match cs with
  | [] => none
  | c :: rest =>
    match codeDigits? c with
    | some count => do
      guard (count ≤ rest.length)
      let code ← (rest.take count).foldlM (fun n digit => (16 * n + ·) <$> hexDigit? digit) 0
      guard (!(0xD800 ≤ code && code ≤ 0xDFFF) && code ≤ 0x10FFFF)
      return (Char.ofNat code, count + 1)
    | none => (simpleEscape? c).map (·, 1)

/-- Reads on in a quoted scalar: in a word if `inWord`, and between words otherwise. -/
def readQuotedFrom (single : Bool) :
    (fuel : Nat) → (inWord : Bool) → Cursor → Folding → Option (Cursor × Folding)
  | 0, _, _, _ => none
  | fuel + 1, true, c, f =>
    match c.rest with
    | [] => none
    | char :: rest =>
      if isBlank char || isBreak char then readQuotedFrom single fuel false c f
      else if single && char = '\'' && rest.head? = some '\'' then
        readQuotedFrom single fuel true (c.skip 2) (f.push '\'')
      else if char = (if single then '\'' else '"') then some (c.next, f)
      else if !single && char = '\\' then
        if rest.head?.any isBreak then
          readQuotedFrom single fuel false (c.skip 2) { f.join with onNewLine := true }
        else
          match readEscape rest with
          | some (escaped, count) => readQuotedFrom single fuel true (c.skip (count + 1)) (f.push escaped)
          | none => none
      else readQuotedFrom single fuel true c.next (f.push char)
  | fuel + 1, false, c, f =>
    match c.rest with
    | [] => none
    | char :: _ =>
      if isBlank char then readQuotedFrom single fuel false c.next (f.pushBlank char)
      else if isBreak char then readQuotedFrom single fuel false c.next (f.pushBreak char)
      else if c.atDocumentMark then none
      else readQuotedFrom single fuel true c f.join

/-- Reads a quoted scalar after its opening quote. -/
def readQuoted (single : Bool) (c : Cursor) : Option (String × Cursor) := do
  let (after, f) ← readQuotedFrom single (2 * c.rest.length + 2) true c .empty
  return (f.finish, after)

/-! ### Block scalars -/

/-- What a block scalar keeps of the breaks at its end. -/
inductive Chomping where
  | strip
  | clip
  | keep
  deriving DecidableEq, Repr

/-- Reads the digit that says how deep a block is indented; zero is refused. -/
def readIncrement (c : Cursor) : Option (Nat × Cursor) :=
  match c.rest with
  | char :: _ =>
    if char.isDigit then
      if char = '0' then none else some (char.toNat - 48, c.next)
    else some (0, c)
  | [] => some (0, c)

/-- Reads the sign that says what is kept of the breaks at the end. -/
def readChomping (c : Cursor) : Chomping × Cursor :=
  if c.sees 0 '+' then (.keep, c.next) else if c.sees 0 '-' then (.strip, c.next) else (.clip, c)

/-- Reads the signs after the opening character of a block, in either order. -/
def readBlockHeader (c : Cursor) : Option (Chomping × Nat × Cursor) :=
  match readChomping c with
  | (.clip, c) => do
    let (increment, c) ← readIncrement c
    let (chomping, c) := if increment = 0 then (.clip, c) else readChomping c
    return (chomping, increment, c)
  | (chomping, c) => do
    let (increment, c) ← readIncrement c
    return (chomping, increment, c)

/-- Reads empty lines and the indentation of the next line. `indent` is the indentation of the block, or 0 as
long as it is not known; the results are the breaks, the latest first, and the largest column reached. -/
def readBlockBreaks (indent : Nat) :
    (fuel : Nat) → Cursor → (breaks : List Char) → (reached : Nat) → Option (List Char × Nat × Cursor)
  | 0, _, _, _ => none
  | fuel + 1, c, breaks, reached =>
    let open' := indent = 0 || c.column < indent
    match c.rest with
    | [] => some (breaks, max reached c.column, c)
    | char :: _ =>
      if open' && char = ' ' then readBlockBreaks indent fuel c.next breaks reached
      else if open' && char = '\t' then none
      else if isBreak char then readBlockBreaks indent fuel c.next (char :: breaks) (max reached c.column)
      else some (breaks, max reached c.column, c)

/-- Reads the lines of a block. `text`, `lineEnd` and `breaks` hold what is read, the end of the last line and
the empty lines after it, the latest first; `blankLine` tells whether the last line started with a blank. -/
def readBlockLines (literal : Bool) (indent : Nat) :
    (fuel : Nat) → Cursor → (text lineEnd breaks : List Char) → (blankLine : Bool) →
      Option (List Char × List Char × List Char × Cursor)
  | 0, _, _, _, _, _ => none
  | fuel + 1, c, text, lineEnd, breaks, blankLine =>
    if c.column != indent || c.rest.isEmpty then some (text, lineEnd, breaks, c)
    else
      let startsBlank := c.rest.head?.any isBlank
      let folds := !literal && lineEnd = ['\n'] && !blankLine && !startsBlank
      let joined := if folds then (if breaks.isEmpty then [' '] else []) else lineEnd
      let (line, after) := c.span (!isBreak ·)
      let text := line.reverse ++ breaks ++ joined ++ text
      let lineEnd := after.rest.take 1
      match readBlockBreaks indent (after.rest.length + 1) after.next [] 0 with
      | none => none
      | some (breaks, _, c) => readBlockLines literal indent fuel c text lineEnd breaks startsBlank

/-- Reads a block scalar after its opening character, under a block indented to `parent`. -/
def readBlock (literal : Bool) (parent : Int) (c : Cursor) : Option (String × Cursor) := do
  let (chomping, increment, c) ← readBlockHeader c
  let c := c.skipWhile isBlank
  let c := if c.sees 0 '#' then c.skipWhile (!isBreak ·) else c
  guard c.endsLine
  let c := c.next
  let given : Nat := if increment = 0 then 0 else (max parent 0).toNat + increment
  let (breaks, reached, c) ← readBlockBreaks given (c.rest.length + 1) c [] 0
  let indent := if given = 0 then max (max reached (parent + 1).toNat) 1 else given
  let (text, lineEnd, breaks, c) ← readBlockLines literal indent (c.rest.length + 1) c [] [] breaks false
  let text := match chomping with
    | .strip => text
    | .clip => lineEnd ++ text
    | .keep => breaks ++ lineEnd ++ text
  return (String.ofList text.reverse, c)

end Checkup.Yaml
