import Checkup.Dependency.Basic
import Checkup.Text.Lines

/-!
# Requirements of a Go module

A requirement is a name and a version, on a line of its own after the word `require`, or in a block of such
lines between parentheses. Comments start with two slashes.
-/

namespace Checkup.Dependency.GoMod

open Checkup.Text

/-- A line without the comment at its end. -/
def dropComment : List Char → List Char
  | [] => []
  | '/' :: '/' :: _ => []
  | c :: rest => c :: dropComment rest

/-- What a line says: its text without comment and without the blanks around it. -/
def statement (line : List Char) : List Char :=
  trim (dropComment line)

/-- The word in front of a requirement, with the blank after it. -/
def requireWord : List Char := ['r', 'e', 'q', 'u', 'i', 'r', 'e', ' ']

/-- The line that opens a block. -/
def blockStart : List Char := requireWord ++ ['(']

/-- The dependency that a name and a version make; words after them do not count. -/
def required? (requirement : List Char) : Option Entry :=
  match fields requirement with
  | name :: version :: _ => some ⟨String.ofList name, String.ofList version, false⟩
  | _ => none

/-- The dependencies that statements list; `inBlock` tells whether a block is open. -/
def entriesFrom (inBlock : Bool) : List (List Char) → List Entry
  | [] => []
  | line :: rest =>
    if line = blockStart then entriesFrom true rest
    else if inBlock then
      if line = [')'] then entriesFrom false rest else (required? line).toList ++ entriesFrom true rest
    else
      match requireWord.isPrefixOf? line with
      | some requirement => (required? (trim requirement)).toList ++ entriesFrom false rest
      | none => entriesFrom false rest

/-- The dependencies that a module requires. -/
def entries (source : List Char) : List Entry :=
  entriesFrom false ((lines source).map statement)

end Checkup.Dependency.GoMod
