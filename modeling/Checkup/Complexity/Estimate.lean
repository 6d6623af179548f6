import Checkup.Text.Lines
import Checkup.Text.Search

/-!
# Complexity estimated from the text

Where the language of a file is not known, its complexity is estimated: one more than the number of decision
points on the lines that are not comments. A decision point is one of a few words, a doubled sign of logical
and or or, or a question mark between blanks.
-/

namespace Checkup.Complexity

open Checkup.Text

/-- Whether a line is a comment, or looks like a line within one. -/
def isComment (line : List Char) : Bool :=
  match trimStart line with
  | '/' :: '/' :: _ | '#' :: _ | '/' :: '*' :: _ | '*' :: _ => true
  | _ => false

/-- The words that decide. -/
def decisionWords : List String := ["if", "for", "while", "case", "catch", "elif", "except"]

/-- A question mark between two blanks. -/
def questionMark : Pattern := fun _ cs =>
  match cs with
  | a :: '?' :: b :: rest => if isBlank a && isBlank b then some rest else none
  | _ => none

/-- A decision point. -/
def decisionPoint : Pattern :=
  firstOf (decisionWords.map word ++ [literal "&&", literal "||", questionMark])

/-- The complexity of a text, estimated. -/
def estimate (source : List Char) : Nat :=
  1 + (((lines source).filter (!isComment ·)).map (occurrences decisionPoint)).foldr (· + ·) 0

end Checkup.Complexity
