/-!
# A place in a YAML text

A text is read from a place that knows its line and column, because the structure of a document is in its
indentation. Line breaks are made uniform first: a carriage return, a line feed after one, and the next-line
character become one line feed. The line and the paragraph separator break lines too and stay what they are.
-/

namespace Checkup.Yaml

/-- The text with every line break of one or two ASCII characters, and the next-line character, made a line
feed. -/
def uniformBreaks : List Char → List Char
  | [] => []
  | '\r' :: '\n' :: rest => '\n' :: uniformBreaks rest
  | '\r' :: rest => '\n' :: uniformBreaks rest
  | c :: rest => (if c.toNat = 0x85 then '\n' else c) :: uniformBreaks rest

/-- Whether a character may stand in a document. -/
def isAllowed (c : Char) : Bool :=
  let n := c.toNat
  n == 9 || n == 10 || n == 13 || (32 ≤ n && n ≤ 126) || n == 0x85 || (0xA0 ≤ n && n != 0xFEFF && n != 0xFFFE
    && n != 0xFFFF)

/-- Whether a character ends a line. -/
def isBreak (c : Char) : Bool :=
  c = '\n' || c.toNat = 0x2028 || c.toNat = 0x2029

/-- Whether a character separates words of a line. -/
def isBlank (c : Char) : Bool :=
  c = ' ' || c = '\t'

/-- A place in a text: what is left from there, and where it is. -/
structure Cursor where
  rest : List Char
  line : Nat
  column : Nat
  index : Nat

namespace Cursor

/-- The start of a text. -/
def start (cs : List Char) : Cursor := ⟨cs, 0, 0, 0⟩

/-- The character `i` places on. -/
def peek? (c : Cursor) (i : Nat) : Option Char :=
  c.rest[i]?

/-- Whether the character `i` places on is `char`. -/
def sees (c : Cursor) (i : Nat) (char : Char) : Bool :=
  c.peek? i = some char

/-- Whether the text, the line or the word is over `i` places on. -/
def endsWordAt (c : Cursor) (i : Nat) : Bool :=
  match c.peek? i with
  | none => true
  | some char => isBlank char || isBreak char

/-- Whether the text or the line is over here. -/
def endsLine (c : Cursor) : Bool :=
  match c.rest with
  | [] => true
  | char :: _ => isBreak char

/-- The next place. -/
def next (c : Cursor) : Cursor :=
  match c.rest with
  | [] => c
  | char :: rest =>
    if isBreak char then ⟨rest, c.line + 1, 0, c.index + 1⟩ else ⟨rest, c.line, c.column + 1, c.index + 1⟩

/-- The place `n` characters on. -/
def skip (c : Cursor) : (n : Nat) → Cursor
  | 0 => c
  | n + 1 => c.next.skip n

/-- The characters from here on that satisfy `p`, up to `fuel` of them, and the place after them. -/
def takeWhile (p : Char → Bool) : (fuel : Nat) → Cursor → List Char × Cursor
  | 0, c => ([], c)
  | fuel + 1, c =>
    match c.rest with
    | [] => ([], c)
    | char :: _ =>
      if p char then
        let (chars, after) := takeWhile p fuel c.next
        (char :: chars, after)
      else ([], c)

/-- The characters from here on that satisfy `p`, and the place after them. -/
def span (p : Char → Bool) (c : Cursor) : List Char × Cursor :=
  takeWhile p c.rest.length c

/-- The place after the characters from here on that satisfy `p`. -/
def skipWhile (p : Char → Bool) (c : Cursor) : Cursor :=
  (c.span p).2

/-- Whether three characters `mark`, the first of a line, stand here alone. -/
def atMark (c : Cursor) (mark : Char) : Bool :=
  c.column == 0 && c.sees 0 mark && c.sees 1 mark && c.sees 2 mark && c.endsWordAt 3

/-- Whether a document ends or starts here. -/
def atDocumentMark (c : Cursor) : Bool :=
  c.atMark '-' || c.atMark '.'

end Cursor

end Checkup.Yaml
