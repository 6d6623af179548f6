import Checkup.Json.Value

/-!
# Writing JSON

* `compact` — a value without any blank.
* `pretty` — a value with one item or member a line, two blanks deeper than what holds it.

In strings, the quote, the backslash and the control characters below the blank are escaped, and nothing
else.
-/

namespace Checkup.Json

/-- A byte as two hexadecimal digits. -/
def hexByte (n : Nat) : List Char :=
  [Nat.digitChar (n / 16), Nat.digitChar (n % 16)]

/-- One character of a string. -/
def escapeChar (c : Char) : List Char :=
  if c = '"' then ['\\', '"']
  else if c = '\\' then ['\\', '\\']
  else if c = '\n' then ['\\', 'n']
  else if c = '\r' then ['\\', 'r']
  else if c = '\t' then ['\\', 't']
  else if c.toNat = 8 then ['\\', 'b']
  else if c.toNat = 12 then ['\\', 'f']
  else if c.toNat < 32 then ['\\', 'u', '0', '0'] ++ hexByte c.toNat
  else [c]

/-- A string between quotes. -/
def printString (s : String) : List Char :=
  '"' :: s.toList.flatMap escapeChar ++ ['"']

/-- A new line, indented to a depth. -/
def newLine (depth : Nat) : List Char :=
  '\n' :: List.replicate (2 * depth) ' '

mutual

/-- A value at a depth, with one item or member a line if `pretty`. -/
def print (pretty : Bool) (depth : Nat) : Json → List Char
  | null => ['n', 'u', 'l', 'l']
  | bool true => ['t', 'r', 'u', 'e']
  | bool false => ['f', 'a', 'l', 's', 'e']
  | number literal => literal.text
  | string text => printString text
  | illFormed => ['"', '\\', 'u', 'd', '8', '0', '0', '"']
  | array [] => ['[', ']']
  | array (item :: items) =>
    '[' :: (if pretty then newLine (depth + 1) else []) ++ print pretty (depth + 1) item
      ++ printItems pretty (depth + 1) items ++ (if pretty then newLine depth else []) ++ [']']
  | object [] => ['\x7b', '\x7d']
  | object ((name, value) :: members) =>
    '\x7b' :: (if pretty then newLine (depth + 1) else []) ++ printString name
      ++ (if pretty then [':', ' '] else [':']) ++ print pretty (depth + 1) value
      ++ printMembers pretty (depth + 1) members ++ (if pretty then newLine depth else []) ++ ['\x7d']

/-- The items after the first, each with the comma before it. -/
def printItems (pretty : Bool) (depth : Nat) : List Json → List Char
  | [] => []
  | item :: items =>
    ',' :: (if pretty then newLine depth else []) ++ print pretty depth item
      ++ printItems pretty depth items

/-- The members after the first, each with the comma before it. -/
def printMembers (pretty : Bool) (depth : Nat) : List (String × Json) → List Char
  | [] => []
  | (name, value) :: members =>
    ',' :: (if pretty then newLine depth else []) ++ printString name
      ++ (if pretty then [':', ' '] else [':']) ++ print pretty depth value
      ++ printMembers pretty depth members

end

/-- The value without any blank. -/
def compact (value : Json) : String :=
  String.ofList (print false 0 value)

/-- The value with one item or member a line. -/
def pretty (value : Json) : String :=
  String.ofList (print true 0 value)

end Checkup.Json
