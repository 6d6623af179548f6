/-!
# Literals of programming languages

Readers of literals: each takes a text and gives what follows the literal at its start, if there is one.
-/

namespace Checkup.Complexity

/-- The text after the next occurrence of `closing`. With `escapes`, a backslash takes the character after it
along. -/
def afterClosing (closing : List Char) (escapes : Bool) : List Char → Option (List Char)
  | [] => none
  | c :: rest =>
    match closing.isPrefixOf? (c :: rest) with
    | some after => some after
    | none =>
      if escapes && c = '\\' then
        match rest with
        | _ :: rest => afterClosing closing escapes rest
        | [] => none
      else afterClosing closing escapes rest

/-- A literal between two delimiters. -/
def between (opening closing : String) (escapes : Bool) (cs : List Char) : Option (List Char) :=
  match opening.toList.isPrefixOf? cs with
  | some rest => afterClosing closing.toList escapes rest
  | none => none

/-- A literal between two equal delimiters, in which a backslash escapes. -/
def quotedBy (delimiter : String) (cs : List Char) : Option (List Char) :=
  between delimiter delimiter true cs

/-- The first reader that finds a literal. -/
def firstLiteral (readers : List (List Char → Option (List Char))) (cs : List Char) : Option (List Char) :=
  readers.findSome? fun reader => reader cs

/-- One character between single quotes, escaped or not. A single quote may also stand alone. -/
def oneChar : List Char → Option (List Char)
  | '\'' :: '\\' :: rest => afterClosing ['\''] true ('\\' :: rest)
  | '\'' :: _ :: '\'' :: rest => some rest
  | _ => none

/-- A literal that opens with a letter or none, a number of hashes and a double quote, and closes with a double
quote and as many hashes. -/
def hashed (letters : String) (fewest : Nat) (cs : List Char) : Option (List Char) :=
  match letters.toList.isPrefixOf? cs with
  | none => none
  | some rest =>
    let hashes := rest.takeWhile (· = '#')
    match rest.drop hashes.length with
    | '"' :: rest => if hashes.length < fewest then none else afterClosing ('"' :: hashes) false rest
    | _ => none

/-- A literal that opens with letters, a double quote, a delimiter and a parenthesis, and closes with the same
the other way around. -/
def delimited (letters : String) (cs : List Char) : Option (List Char) :=
  match (letters.toList ++ ['"']).isPrefixOf? cs with
  | none => none
  | some rest =>
    let delimiter := rest.takeWhile fun c => c ≠ '(' && c ≠ '"' && c ≠ '\n'
    match rest.drop delimiter.length with
    | '(' :: rest => afterClosing (')' :: delimiter ++ ['"']) false rest
    | _ => none

/-- A number that may have quotes between its digits. -/
def separatedNumber : List Char → Option (List Char)
  | c :: rest =>
    if c.isDigit then some (rest.dropWhile fun c => c.isAlphanum || c = '_' || c = '.' || c = '\'') else none
  | [] => none

/-- A name between back quotes. -/
def backquotedName (cs : List Char) : Option (List Char) :=
  match cs with
  | c :: rest => if c.toNat = 96 then afterClosing [c] false rest else none
  | [] => none

/-- What follows a regular expression after its opening slash: `inClass` tells whether a class of characters is
open. It ends on its line. -/
def afterSlash (inClass : Bool) : List Char → Option (List Char)
  | [] => none
  | '\n' :: _ => none
  | '\\' :: _ :: rest => afterSlash inClass rest
  | '[' :: rest => afterSlash true rest
  | ']' :: rest => afterSlash false rest
  | '/' :: rest => if inClass then afterSlash true rest else some rest
  | _ :: rest => afterSlash inClass rest

/-- A regular expression between slashes, with the letters after it. -/
def regularExpression : List Char → Option (List Char)
  | '/' :: rest => (afterSlash false rest).map (·.dropWhile Char.isAlpha)
  | _ => none

end Checkup.Complexity
