import Checkup.Duplication.Overlap
import Std.Data.HashMap

/-!
# Duplicate detection

The windows of all files are taken in order. Each is compared with the earlier windows of its fingerprint,
which stand in one bucket; the ones of other files make candidates. `findDuplicates` thins the candidates to
those that do not overlap.

* `findDuplicates` — the duplicates among some files.
* `Findings` — what is kept of a scan, with the lines that its duplicates cover (`coveredLines`).
-/

namespace Checkup.Duplication

open Checkup.Text

/-- The most lines of a sample. -/
def sampleLines : Nat := 10

/-- The first lines of a text, with line feeds between them. -/
def sampleOf (raw : List Char) : String :=
  "\n".intercalate (((lines raw).take sampleLines).map String.ofList)

/-- The duplicate that an earlier window and a later one make. -/
def Duplicate.ofWindows (earlier later : Window) : Duplicate where
  fileA := earlier.path
  fileB := later.path
  rangeA := earlier.range
  rangeB := later.range
  lineCount := later.lineCount
  sample := sampleOf later.raw

/-- The windows met so far, by fingerprint, the latest first. -/
abbrev Buckets := Std.HashMap Fingerprint (List Window)

/-- The candidates that the windows make with one another and with those in the buckets. -/
def candidatesAfter (buckets : Buckets) : List Window → List Duplicate
  | [] => []
  | w :: rest =>
    let seen := buckets.getD w.fingerprint []
    let here := (seen.reverse.filter (·.path != w.path)).map (Duplicate.ofWindows · w)
    here ++ candidatesAfter (buckets.insert w.fingerprint (w :: seen)) rest

/-- The candidates among windows in order of discovery: each window with every earlier one of the same
fingerprint in another file. -/
def candidates (ws : List Window) : List Duplicate :=
  candidatesAfter ∅ ws

/-- The windows of all files, in order of discovery. -/
def allWindows (settings : Settings) (files : List SourceFile) : Except Overflow (List Window) :=
  return (← files.mapM (windows settings)).flatten

/-- The duplicates among files, the largest first, no two of them overlapping. -/
def findDuplicates (settings : Settings) (files : List SourceFile) : Except Overflow (List Duplicate) :=
  return resolveOverlaps (candidates (← allWindows settings files))

/-- The lines of a range, by number. -/
def LineRange.toList (r : LineRange) : List Nat :=
  List.range' r.start (r.stop + 1 - r.start)

/-- The lines of both sides of a duplicate, by file and number. -/
def Duplicate.lines (d : Duplicate) : List (String × Nat) :=
  d.rangeA.toList.map (d.fileA, ·) ++ d.rangeB.toList.map (d.fileB, ·)

/-- The lines that some duplicate covers, each once. -/
def coveredLines (duplicates : List Duplicate) : List (String × Nat) :=
  (duplicates.flatMap Duplicate.lines).eraseDups

/-- What is kept of a scan for duplicates. -/
structure Findings where
  duplicates : List Duplicate
  filesScanned : Nat
  totalLines : Nat
  duplicatedLines : Nat
  /-- Files that could not be read. -/
  skippedFiles : List String
  deriving DecidableEq, Repr

/-- What a scan finds in files, given the files that could not be read. -/
def Findings.ofFiles (settings : Settings) (files : List SourceFile) (skipped : List String) :
    Except Overflow Findings := do
  let found ← findDuplicates settings files
  return {
    duplicates := found
    filesScanned := files.length
    totalLines := (files.map fun f => (Text.lines f.content.toList).length).foldr (· + ·) 0
    duplicatedLines := (coveredLines found).length
    skippedFiles := skipped }

end Checkup.Duplication
