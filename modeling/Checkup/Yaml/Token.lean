import Checkup.Yaml.Scalar

/-!
# Tokens

The tokens of a YAML text. Besides what is written there are tokens that stand for indentation: a deeper
column opens a block collection, and a shallower one closes it.

A simple key is known for one only when its colon comes. Until then it is a pending key (`PendingKey`), which
remembers where its token stands; the colon puts the token `key` there, and in front of it the opening of a
block mapping if the column is deeper.
-/

namespace Checkup.Yaml

/-- A token. -/
inductive Token where
  /-- A directive with the major and minor version. -/
  | version (major minor : Nat)
  /-- A directive that gives a tag handle a meaning. -/
  | tagHandle (handle tagStart : String)
  | documentStart
  | documentEnd
  | blockSequence
  | blockMapping
  | blockEnd
  | flowSequence
  | flowSequenceEnd
  | flowMapping
  | flowMappingEnd
  | blockEntry
  | flowEntry
  | key
  | value
  | alias (name : String)
  | anchor (name : String)
  | tag (handle suffix : String)
  | scalar (text : String) (style : Style)
  deriving DecidableEq, Repr

/-- A place where a simple key may have started. -/
structure PendingKey where
  /-- The number of tokens before it. -/
  position : Nat
  line : Nat
  column : Nat
  index : Nat
  /-- Whether a colon must follow. -/
  required : Bool

/-- The reading of tokens from a place on. -/
structure Scan where
  cursor : Cursor
  /-- The column of the innermost block collection, or -1. -/
  indent : Int
  /-- The columns of the block collections around it. -/
  indents : List Int
  /-- Whether a simple key may start here. -/
  keyAllowed : Bool
  /-- The pending key of each open bracket, the innermost first, and of the block context last. -/
  keys : List (Option PendingKey)
  tokens : Array Token

namespace Scan

/-- The start of a text. -/
def start (cs : List Char) : Scan := ⟨.start cs, -1, [], true, [none], #[]⟩

/-- Whether this place stands inside brackets. -/
def inFlow (s : Scan) : Bool := 1 < s.keys.length

/-- One more token. -/
def emit (s : Scan) (token : Token) : Scan := { s with tokens := s.tokens.push token }

/-- The scan at another place. -/
def moveTo (s : Scan) (cursor : Cursor) : Scan := { s with cursor := cursor }

/-- The scan with another answer to whether a simple key may start. -/
def allowKey (s : Scan) (allowed : Bool) : Scan := { s with keyAllowed := allowed }

/-! ### Pending keys -/

/-- Forgets the innermost pending key; one that needs a colon must not be forgotten. -/
def forgetKey? (s : Scan) : Option Scan :=
  match s.keys with
  | some key :: keys => if key.required then none else some { s with keys := none :: keys }
  | _ => some s

/-- Notes that a simple key may start here. -/
def noteKey? (s : Scan) : Option Scan :=
  if s.keyAllowed then do
    let s ← s.forgetKey?
    let c := s.cursor
    let key : PendingKey := ⟨s.tokens.size, c.line, c.column, c.index, !s.inFlow && s.indent == c.column⟩
    return { s with keys := some key :: s.keys.drop 1 }
  else some s

/-- Forgets the pending keys that started on an earlier line or more than 1024 characters before. -/
def forgetStaleKeys? (s : Scan) : Option Scan := do
  let keys ← s.keys.mapM fun
    | none => some none
    | some key =>
      if key.line < s.cursor.line || key.index + 1024 < s.cursor.index then
        if key.required then none else some none
      else some (some key)
  return { s with keys := keys }

/-! ### Indentation -/

/-- Opens a block collection at a column if that is deeper, with its token before the one at `position`. -/
def indentTo (s : Scan) (column : Nat) (position : Nat) (token : Token) : Scan :=
  if s.inFlow || column ≤ s.indent then s
  else
    { s with
      indents := s.indent :: s.indents
      indent := column
      tokens := s.tokens.toList.take position ++ token :: s.tokens.toList.drop position |>.toArray }

/-- Closes the block collections deeper than a column, given the columns around the innermost. -/
def dedentAll (column indent : Int) (tokens : Array Token) : List Int → Int × List Int × Array Token
  | [] => (indent, [], tokens)
  | outer :: indents =>
    if column < indent then dedentAll column outer (tokens.push .blockEnd) indents
    else (indent, outer :: indents, tokens)

/-- Closes the block collections deeper than a column. -/
def dedentTo (s : Scan) (column : Int) : Scan :=
  if s.inFlow then s
  else
    let (indent, indents, tokens) := dedentAll column s.indent s.tokens s.indents
    { s with indent := indent, indents := indents, tokens := tokens }

/-! ### What separates tokens -/

/-- Passes blanks, comments and breaks. A tab is no blank where a simple key may start outside brackets. -/
def skipGap : (fuel : Nat) → Scan → Scan
  | 0, s => s
  | fuel + 1, s =>
    let tabs := s.inFlow || !s.keyAllowed
    let c := s.cursor.skipWhile fun char => char = ' ' || (tabs && char = '\t')
    let c := if c.sees 0 '#' then c.skipWhile (!isBreak ·) else c
    match c.rest with
    | [] => s.moveTo c
    | char :: _ =>
      if isBreak char then skipGap fuel ((s.moveTo c.next).allowKey (s.keyAllowed || !s.inFlow))
      else s.moveTo c

/-! ### Tokens, one by one -/

/-- Whether a character may stand in a name. -/
def isNameChar (c : Char) : Bool :=
  c.isAlphanum || c = '_' || c = '-'

/-- Reads the name of an anchor or an alias after its sign. -/
def readName (c : Cursor) : Option (String × Cursor) := do
  let (name, after) := c.span isNameChar
  guard !name.isEmpty
  guard (after.endsWordAt 0 ||
    (after.peek? 0).any (['?', ':', ',', ']', '\x7d', '%', '@', Char.ofNat 96].contains ·))
  return (String.ofList name, after)

/-- Whether a character may stand in a tag; inside brackets the signs of collections may not. -/
def isTagChar (verbatim : Bool) (c : Char) : Bool :=
  isNameChar c || ";/?:@&=+$.!~*'()%".toList.contains c || (verbatim && (c = ',' || c = '[' || c = ']'))

/-- Reads a tag after its sign. -/
def readTag (inFlow : Bool) (c : Cursor) : Option (Token × Cursor) := do
  let (token, after) ←
    if c.sees 0 '<' then do
      let (text, after) := c.next.span (isTagChar true)
      guard (!text.isEmpty && after.sees 0 '>')
      some (Token.tag "" (String.ofList text), after.next)
    else
      let (name, after) := c.span isNameChar
      if after.sees 0 '!' then do
        let (suffix, after) := after.next.span (isTagChar false)
        guard !suffix.isEmpty
        some (Token.tag (String.ofList ('!' :: name ++ ['!'])) (String.ofList suffix), after)
      else
        let (suffix, after) := c.span (isTagChar false)
        some (if suffix.isEmpty then Token.tag "" "!" else Token.tag "!" (String.ofList suffix), after)
  guard (after.endsWordAt 0 || (inFlow && after.sees 0 ','))
  return (token, after)

/-- Reads the rest of a directive's line, which holds blanks and a comment. -/
def endDirective (c : Cursor) : Option Cursor := do
  let c := c.skipWhile isBlank
  let c := if c.sees 0 '#' then c.skipWhile (!isBreak ·) else c
  guard c.endsLine
  return c.next

/-- Reads a directive after its sign. -/
def readDirective (c : Cursor) : Option (Token × Cursor) := do
  let (name, c) := c.span isNameChar
  guard (c.endsWordAt 0)
  let c := c.skipWhile isBlank
  match String.ofList name with
  | "YAML" => do
    let (major, c) := c.span Char.isDigit
    guard (!major.isEmpty && c.sees 0 '.')
    let (minor, c) := c.next.span Char.isDigit
    guard !minor.isEmpty
    let value := fun (digits : List Char) => digits.foldl (fun n d => 10 * n + (d.toNat - 48)) 0
    return (.version (value major) (value minor), ← endDirective c)
  | "TAG" => do
    let (handle, c) := c.span (!isBlank · )
    let (tagStart, c) := (c.skipWhile isBlank).span fun char => !isBlank char && !isBreak char
    guard (handle.head? = some '!' && !tagStart.isEmpty)
    return (.tagHandle (String.ofList handle) (String.ofList tagStart), ← endDirective c)
  | _ => none

/-- Emits a token of one character that ends whatever a simple key could be part of. -/
def emitMark? (s : Scan) (token : Token) (keyAllowed : Bool) : Option Scan := do
  let s ← s.forgetKey?
  return ((s.moveTo s.cursor.next).emit token).allowKey keyAllowed

/-- Opens a bracket. -/
def openFlow? (s : Scan) (token : Token) : Option Scan := do
  let s ← s.noteKey?
  return { ((s.moveTo s.cursor.next).emit token).allowKey true with keys := none :: s.keys }

/-- Closes a bracket. -/
def closeFlow? (s : Scan) (token : Token) : Option Scan := do
  let s ← s.forgetKey?
  let s := if s.inFlow then { s with keys := s.keys.drop 1 } else s
  return ((s.moveTo s.cursor.next).emit token).allowKey false

/-- Reads a colon. -/
def readValueMark? (s : Scan) : Option Scan :=
  let after := s.cursor.next
  match s.keys with
  | some key :: keys =>
    let inserted := s.tokens.toList.take key.position ++ .key :: s.tokens.toList.drop key.position
    let s := { s with tokens := inserted.toArray, keys := none :: keys }
    some (((s.indentTo key.column key.position .blockMapping).moveTo after |>.emit .value).allowKey false)
  | _ =>
    if s.inFlow then some (((s.moveTo after).emit .value).allowKey false)
    else if s.keyAllowed then
      some (((s.indentTo s.cursor.column s.tokens.size .blockMapping).moveTo after |>.emit .value).allowKey true)
    else none

/-- Emits a token that may be a simple key. -/
def emitKeyLike? (s : Scan) (read : Cursor → Option (Token × Bool × Cursor)) : Option Scan := do
  let s ← s.noteKey?
  let (token, keyAllowed, after) ← read s.cursor
  return ((s.moveTo after).emit token).allowKey keyAllowed

/-- The characters that start something else than a plain scalar. -/
def indicators : List Char :=
  [',', '[', ']', '\x7b', '\x7d', '#', '&', '*', '!', '|', '>', '\'', '"', '%', '@', Char.ofNat 96]

/-- Whether a plain scalar may start with a character, given the one after it. -/
def startsPlain (inFlow : Bool) (c : Cursor) (char : Char) : Bool :=
  if char = '-' then !(c.peek? 1).any isBlank
  else if char = '?' || char = ':' then !inFlow && !c.endsWordAt 1
  else !isBlank char && !indicators.contains char

/-- Reads the next token, which starts with `char` at the cursor. -/
def readToken? (s : Scan) (char : Char) : Option Scan :=
  let c := s.cursor
  if c.column == 0 && char = '%' then do
    let s ← (s.dedentTo (-1)).forgetKey?
    let (token, after) ← readDirective c.next
    return ((s.moveTo after).emit token).allowKey false
  else if c.atDocumentMark then do
    let s ← (s.dedentTo (-1)).forgetKey?
    return ((s.moveTo (c.skip 3)).emit (if char = '-' then .documentStart else .documentEnd)).allowKey false
  else if char = '[' then s.openFlow? .flowSequence
  else if char = '\x7b' then s.openFlow? .flowMapping
  else if char = ']' then s.closeFlow? .flowSequenceEnd
  else if char = '\x7d' then s.closeFlow? .flowMappingEnd
  else if char = ',' then s.emitMark? .flowEntry true
  else if char = '-' && c.endsWordAt 1 then do
    guard (s.inFlow || s.keyAllowed)
    (s.indentTo c.column s.tokens.size .blockSequence).emitMark? .blockEntry true
  else if char = '?' && (s.inFlow || c.endsWordAt 1) then do
    guard (s.inFlow || s.keyAllowed)
    (s.indentTo c.column s.tokens.size .blockMapping).emitMark? .key !s.inFlow
  else if char = ':' && (s.inFlow || c.endsWordAt 1) then s.readValueMark?
  else if char = '*' then
    s.emitKeyLike? fun c => (readName c.next).map fun (name, after) => (.alias name, false, after)
  else if char = '&' then
    s.emitKeyLike? fun c => (readName c.next).map fun (name, after) => (.anchor name, false, after)
  else if char = '!' then
    s.emitKeyLike? fun c => (readTag s.inFlow c.next).map fun (token, after) => (token, false, after)
  else if (char = '|' || char = '>') && !s.inFlow then do
    let s ← s.forgetKey?
    let (text, after) ← readBlock (char = '|') s.indent c.next
    return ((s.moveTo after).emit (.scalar text (if char = '|' then .literal else .folded))).allowKey true
  else if char = '\'' || char = '"' then
    s.emitKeyLike? fun c => (readQuoted (char = '\'') c.next).map fun (text, after) =>
      (.scalar text (if char = '\'' then .singleQuoted else .doubleQuoted), false, after)
  else if startsPlain s.inFlow c char then
    s.emitKeyLike? fun c => (readPlain s.inFlow (s.indent + 1) c).map fun (text, onNewLine, after) =>
      (.scalar text .plain, onNewLine, after)
  else none

/-- Reads the tokens from here to the end of the text. -/
def readAll : (fuel : Nat) → Scan → Option (Array Token)
  | 0, _ => none
  | fuel + 1, s => do
    let s := s.skipGap (s.cursor.rest.length + 1)
    let s ← s.forgetStaleKeys?
    let s := s.dedentTo s.cursor.column
    match s.cursor.rest with
    | [] =>
      let s ← (s.dedentTo (-1)).forgetKey?
      return s.tokens
    | char :: _ => readAll fuel (← s.readToken? char)

end Scan

/-- The tokens of a text. A byte-order mark may stand in front of it. -/
def Token.ofText? (text : String) : Option (Array Token) :=
  let cs := text.toList
  let cs := if cs.head?.any (·.toNat == 0xFEFF) then cs.drop 1 else cs
  if cs.all isAllowed then
    let cs := uniformBreaks cs
    (Scan.start cs).readAll (cs.length + 2)
  else none

end Checkup.Yaml
