import Checkup.Duplication.Fingerprint
import Checkup.Number.Word
import Checkup.Text.Lines

/-!
# Windows of lines

A window is a run of neighbouring lines of one file. `windows` lists those that are worth comparing: between
`minLines` and `maxWindow` lines long, with at least `minChars` characters once trimmed. They come by
starting line, and the shorter before the longer.

The bounds are words, and adding one to a line number may overflow; the listing then fails as a whole.
-/

namespace Checkup.Duplication

open Checkup.Text

/-- Which windows are compared. -/
structure Settings where
  /-- The fewest lines of a window. -/
  minLines : Nat := 5
  /-- The fewest characters of a window once trimmed. -/
  minChars : Nat := 50
  /-- The most lines of a window. -/
  maxWindow : Nat := 50
  deriving DecidableEq, Repr

/-- Lines by number, from one, both ends included. -/
structure LineRange where
  start : Nat
  stop : Nat
  deriving DecidableEq, Repr

namespace LineRange

/-- The number of lines. A range whose end is the largest word, or whose start is more than one past its
end, overflows. -/
def length (r : LineRange) : Except Overflow Nat := do
  Word.sub (← Word.add r.stop 1) r.start

/-- Whether the range holds no line. -/
def isEmpty (r : LineRange) : Bool :=
  r.stop < r.start

/-- Whether each range starts no later than the other ends. -/
def overlaps (r s : LineRange) : Bool :=
  r.start ≤ s.stop && s.start ≤ r.stop

/-- The range as messages show it. -/
def text (r : LineRange) : String :=
  s!"{r.start}-{r.stop}"

end LineRange

/-- A source file by its path relative to the project and its text. -/
structure SourceFile where
  path : String
  content : String
  deriving DecidableEq, Repr

/-- A window of a file, with its text and the fingerprint of that text. -/
structure Window where
  path : String
  range : LineRange
  raw : List Char
  fingerprint : Fingerprint
  deriving DecidableEq, Repr

/-- The number of lines of a window that lies in a file. -/
def Window.lineCount (w : Window) : Nat :=
  w.range.stop + 1 - w.range.start

/-- The text of the lines with index `first` up to and without `stop`, the terminators between them kept and
the last one left out. -/
def windowText (cs : List Char) (spans : Array Span) (first stop : Nat) : List Char :=
  Span.slice cs ⟨(spans.getD first ⟨0, 0⟩).start, (spans.getD (stop - 1) ⟨0, 0⟩).stop⟩

/-- The windows of a file that start at the line with index `first` and end before the line with an index of
`stops`. -/
def windowsFrom (settings : Settings) (path : String) (cs : List Char) (spans : Array Span) (first : Nat)
    (stops : List Nat) : List Window :=
  stops.filterMap fun stop =>
    let raw := windowText cs spans first stop
    if (trim raw).length < settings.minChars then none
    else some ⟨path, ⟨first + 1, stop⟩, raw, fingerprint (.ofPath path) raw⟩

/-- The windows of a file that start at the line with index `first` or later; `remaining` lines are left from
there. -/
def windowsAfter (settings : Settings) (path : String) (cs : List Char) (spans : Array Span) :
    (remaining first : Nat) → Except Overflow (List Window)
  | 0, _ => .ok []
  | remaining + 1, first => do
    let last := min (← Word.add first settings.maxWindow) spans.size
    let shortest ← Word.add first settings.minLines
    if last < shortest then .ok []
    else
      let here := windowsFrom settings path cs spans first (List.range' shortest (last + 1 - shortest))
      return here ++ (← windowsAfter settings path cs spans remaining (first + 1))

/-- The windows of a file, by starting line and the shorter before the longer. No lines make no window. -/
def windows (settings : Settings) (file : SourceFile) : Except Overflow (List Window) :=
  if settings.minLines = 0 then .ok []
  else
    let cs := file.content.toList
    let spans := (lineSpans cs).toArray
    windowsAfter settings file.path cs spans spans.size 0

end Checkup.Duplication
