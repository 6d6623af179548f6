/-!
# Lines of a text

A line ends at a line feed; a carriage return right before it belongs to the terminator. What follows the
last line feed is a line only if it is not empty.

There are two views of the same division. `lines` gives the texts of the lines. `lineSpans` gives where they
stand, as positions counted in characters, which is what cutting a window of lines out of a text needs: the
terminators inside the window stay as they are.
-/

namespace Checkup.Text

/-- A line's text from its reversed characters before the line feed: one carriage return at the end is
dropped. -/
def endLine : List Char → List Char
  | '\r' :: rest => rest.reverse
  | cs => cs.reverse

/-- The lines of a text that stands after the reversed characters of an unfinished line. -/
def linesAfter (line : List Char) : List Char → List (List Char)
  | [] => if line.isEmpty then [] else [line.reverse]
  | '\n' :: rest => endLine line :: linesAfter [] rest
  | c :: rest => linesAfter (c :: line) rest

/-- The lines of a text, without their terminators. -/
def lines (cs : List Char) : List (List Char) :=
  linesAfter [] cs

/-- The characters of a text from position `start` up to and without position `stop`. -/
structure Span where
  start : Nat
  stop : Nat
  deriving DecidableEq, Repr

/-- The characters that a span delimits. -/
def Span.slice (cs : List Char) (span : Span) : List Char :=
  (cs.drop span.start).take (span.stop - span.start)

/-- The spans of the lines of a text whose unfinished line began at `start`; the text goes on at `position`,
after a carriage return or not. -/
def lineSpansAfter (start position : Nat) (afterReturn : Bool) : List Char → List Span
  | [] => if start < position then [⟨start, position⟩] else []
  | '\n' :: rest =>
    ⟨start, if afterReturn && start < position then position - 1 else position⟩
      :: lineSpansAfter (position + 1) (position + 1) false rest
  | c :: rest => lineSpansAfter start (position + 1) (c == '\r') rest

/-- The spans of the lines of a text, without their terminators, in order. -/
def lineSpans (cs : List Char) : List Span :=
  lineSpansAfter 0 0 false cs

end Checkup.Text
