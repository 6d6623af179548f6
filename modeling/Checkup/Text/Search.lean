import Checkup.Text.Word
import Checkup.Text.Blank

/-!
# Occurrences of patterns

A pattern is a function that says what is left of a text after an occurrence at its start, given the
character before. `occurrences` counts occurrences from the left, each beginning where the one before has
ended or later.
-/

namespace Checkup.Text

/-- A pattern: from the character before and a text, the text after an occurrence at its start. -/
abbrev Pattern := Option Char → List Char → Option (List Char)

/-- The text after a fixed text at its start. -/
def literal (text : String) : Pattern :=
  fun _ cs => text.toList.isPrefixOf? cs

/-- The text after a fixed text that ends where a word ends. -/
def wordEnd (text : String) : Pattern := fun before cs =>
  match literal text before cs with
  | some rest => if isWordBoundary text.toList.getLast? rest.head? then some rest else none
  | none => none

/-- A pattern that occurs only where a word begins. -/
def wordStart (p : Pattern) : Pattern := fun before cs =>
  if isWordBoundary before cs.head? then p before cs else none

/-- A whole word. -/
def word (text : String) : Pattern :=
  wordStart (wordEnd text)

/-- The first of some patterns that occurs. -/
def firstOf (ps : List Pattern) : Pattern := fun before cs =>
  ps.findSome? fun p => p before cs

/-- A fixed text, blanks, and a pattern after them. -/
def spaced (text : String) (p : Pattern) : Pattern := fun before cs =>
  match literal text before cs with
  | some rest => p none (trimStart rest)
  | none => none

/-- A fixed text, one blank at least, and a pattern after the blanks. -/
def apart (text : String) (p : Pattern) : Pattern := fun before cs =>
  match literal text before cs with
  | some rest => if rest.head?.any isBlank then p none (trimStart rest) else none
  | none => none

/-- The number of occurrences in a text after `skip` characters, which belong to an occurrence already
counted; `before` is the character before the text. -/
def occurrencesAfter (p : Pattern) (skip : Nat) (before : Option Char) : List Char → Nat
  | [] => 0
  | c :: rest =>
    match skip with
    | skip + 1 => occurrencesAfter p skip (some c) rest
    | 0 =>
      match p before (c :: rest) with
      | some after => 1 + occurrencesAfter p (rest.length - after.length) (some c) rest
      | none => occurrencesAfter p 0 (some c) rest

/-- The number of occurrences in a text. -/
def occurrences (p : Pattern) (cs : List Char) : Nat :=
  occurrencesAfter p 0 none cs

end Checkup.Text
