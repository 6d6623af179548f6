import Checkup.Json.Value

/-!
# Reading JSON

`parse?` reads a text that holds one value and blanks around it. Each reader takes the text from where it
stands and gives the rest; the ones for values carry fuel, and twice the length of the text is enough, since
every two steps pass a character.

A value that is kept whole must also be sound (`isSound`): its strings have texts, its numbers are in range
and its nesting is no deeper than 127.
-/

namespace Checkup.Json

/-- Whether `c` may stand between the parts of a value. -/
def isSpace (c : Char) : Bool :=
  c = ' ' || c = '\n' || c = '\t' || c = '\r'

/-- The text without the blanks at its start. -/
def skipSpace (cs : List Char) : List Char :=
  cs.dropWhile isSpace

/-- The digits at the start of a text, and the rest. -/
def spanDigits (cs : List Char) : List Char × List Char :=
  (cs.takeWhile Char.isDigit, cs.dropWhile Char.isDigit)

/-- Reads the point and the digits after it, if there is a point. -/
def readFraction : List Char → Option (List Char × List Char)
  | '.' :: rest =>
    let (digits, rest) := spanDigits rest
    if digits.isEmpty then none else some (digits, rest)
  | cs => some ([], cs)

/-- Reads the digits of an exponent. -/
def readExponentDigits (negative : Bool) (cs : List Char) : Option (Option (Bool × List Char) × List Char) :=
  let (digits, rest) := spanDigits cs
  if digits.isEmpty then none else some (some (negative, digits), rest)

/-- Reads the exponent, if there is a mark. -/
def readExponent : List Char → Option (Option (Bool × List Char) × List Char)
  | c :: rest =>
    if c = 'e' || c = 'E' then
      match rest with
      | '+' :: rest => readExponentDigits false rest
      | '-' :: rest => readExponentDigits true rest
      | rest => readExponentDigits false rest
    else some (none, c :: rest)
  | [] => some (none, [])

/-- Whether digits make a whole number: there is one, and a zero is not followed by another. -/
def isWhole : List Char → Bool
  | [] => false
  | ['0'] => true
  | c :: _ => c ≠ '0'

/-- Reads a number after its sign. -/
def readUnsigned (negative : Bool) (cs : List Char) : Option (Numeral × List Char) := do
  let (whole, rest) := spanDigits cs
  guard (isWhole whole)
  let (fraction, rest) ← readFraction rest
  let (exponent, rest) ← readExponent rest
  return (⟨negative, whole, fraction, exponent⟩, rest)

/-- Reads a number. -/
def readNumeral : List Char → Option (Numeral × List Char)
  | '-' :: rest => readUnsigned true rest
  | cs => readUnsigned false cs

/-- The value of a hexadecimal digit. -/
def hexValue? (c : Char) : Option Nat :=
  if '0' ≤ c && c ≤ '9' then some (c.toNat - 48)
  else if 'a' ≤ c && c ≤ 'f' then some (c.toNat - 87)
  else if 'A' ≤ c && c ≤ 'F' then some (c.toNat - 55)
  else none

/-- The character that an escape of one letter stands for. -/
def escaped? (c : Char) : Option Char :=
  match c with
  | '"' => some '"'
  | '\\' => some '\\'
  | '/' => some '/'
  | 'b' => some (Char.ofNat 8)
  | 'f' => some (Char.ofNat 12)
  | 'n' => some '\n'
  | 'r' => some '\r'
  | 't' => some '\t'
  | _ => none

/-- Reads a string up to its closing quote, as code points and, where an escape names one, halves of
surrogate pairs. -/
def readUnits : List Char → Option (List Nat × List Char)
  | [] => none
  | '"' :: rest => some ([], rest)
  | '\\' :: 'u' :: a :: b :: c :: d :: rest => do
    let unit := 4096 * (← hexValue? a) + 256 * (← hexValue? b) + 16 * (← hexValue? c) + (← hexValue? d)
    let (units, rest) ← readUnits rest
    return (unit :: units, rest)
  | '\\' :: c :: rest => do
    let char ← escaped? c
    let (units, rest) ← readUnits rest
    return (char.toNat :: units, rest)
  | c :: rest => do
    guard (32 ≤ c.toNat && c ≠ '\\')
    let (units, rest) ← readUnits rest
    return (c.toNat :: units, rest)

/-- The characters of code points and surrogate pairs; `none` where half of a pair stands alone. -/
def joinUnits : List Nat → Option (List Char)
  | [] => some []
  | high :: low :: rest =>
    if 0xD800 ≤ high && high < 0xDC00 && 0xDC00 ≤ low && low < 0xE000 then
      (Char.ofNat (0x10000 + (high - 0xD800) * 0x400 + (low - 0xDC00)) :: ·) <$> joinUnits rest
    else if 0xD800 ≤ high && high < 0xE000 then none
    else (Char.ofNat high :: ·) <$> joinUnits (low :: rest)
  | [unit] => if 0xD800 ≤ unit && unit < 0xE000 then none else some [Char.ofNat unit]

/-- Reads a string after its opening quote. -/
def readString (cs : List Char) : Option (Option String × List Char) := do
  let (units, rest) ← readUnits cs
  return ((joinUnits units).map String.ofList, rest)

mutual

/-- Reads a value, blanks before it skipped. -/
def readValue : (fuel : Nat) → List Char → Option (Json × List Char)
  | 0, _ => none
  | fuel + 1, cs =>
    match skipSpace cs with
    | 'n' :: 'u' :: 'l' :: 'l' :: rest => some (null, rest)
    | 't' :: 'r' :: 'u' :: 'e' :: rest => some (bool true, rest)
    | 'f' :: 'a' :: 'l' :: 's' :: 'e' :: rest => some (bool false, rest)
    | '"' :: rest => do
      let (text, rest) ← readString rest
      return (text.elim illFormed string, rest)
    | '[' :: rest =>
      match skipSpace rest with
      | ']' :: rest => some (array [], rest)
      | rest => do
        let (items, rest) ← readItems fuel rest
        return (array items, rest)
    | '\x7b' :: rest =>
      match skipSpace rest with
      | '\x7d' :: rest => some (object [], rest)
      | rest => do
        let (members, rest) ← readMembers fuel rest
        return (object members, rest)
    | cs => do
      let (literal, rest) ← readNumeral cs
      return (number literal, rest)

/-- Reads the items of an array, at least one, and its end. -/
def readItems : (fuel : Nat) → List Char → Option (List Json × List Char)
  | 0, _ => none
  | fuel + 1, cs => do
    let (item, rest) ← readValue fuel cs
    match skipSpace rest with
    | ']' :: rest => return ([item], rest)
    | ',' :: rest => do
      let (items, rest) ← readItems fuel rest
      return (item :: items, rest)
    | _ => none

/-- Reads the members of an object, at least one, and its end. Every name has a text. -/
def readMembers : (fuel : Nat) → List Char → Option (List (String × Json) × List Char)
  | 0, _ => none
  | fuel + 1, cs =>
    match skipSpace cs with
    | '"' :: rest => do
      let (name, rest) ← readString rest
      let name ← name
      match skipSpace rest with
      | ':' :: rest => do
        let (value, rest) ← readValue fuel rest
        match skipSpace rest with
        | '\x7d' :: rest => return ([(name, value)], rest)
        | ',' :: rest => do
          let (members, rest) ← readMembers fuel rest
          return ((name, value) :: members, rest)
        | _ => none
      | _ => none
    | _ => none

end

/-- Reads a text that holds one value and nothing else but blanks. -/
def parse? (cs : List Char) : Option Json :=
  match readValue (2 * cs.length + 2) cs with
  | some (value, rest) => if (skipSpace rest).isEmpty then some value else none
  | none => none

mutual

/-- Whether every string has a text, every number is in range, and arrays and objects are nested at most
`depth` deep. -/
def isSoundWithin (depth : Nat) : Json → Bool
  | illFormed => false
  | number literal => (literal.nat? (Nat.pow 2 64)).isSome || literal.float?.isSome
  | array items =>
    match depth with
    | 0 => false
    | depth + 1 => areSoundWithin depth items
  | object members =>
    match depth with
    | 0 => false
    | depth + 1 => areMembersSoundWithin depth members
  | _ => true

/-- Whether every item is sound. -/
def areSoundWithin (depth : Nat) : List Json → Bool
  | [] => true
  | item :: items => isSoundWithin depth item && areSoundWithin depth items

/-- Whether the value of every member is sound. -/
def areMembersSoundWithin (depth : Nat) : List (String × Json) → Bool
  | [] => true
  | (_, value) :: members => isSoundWithin depth value && areMembersSoundWithin depth members

end

/-- Whether a value can be kept whole. -/
def isSound (value : Json) : Bool :=
  isSoundWithin 127 value

/-- Reads a text that holds one value to be kept whole. -/
def parseSound? (cs : List Char) : Option Json := do
  let value ← parse? cs
  guard value.isSound
  return value

end Checkup.Json
