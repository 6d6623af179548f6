import Checkup.Duplication.Window
import Std.Data.HashMap

/-!
# Overlapping duplicates

Two equal windows make a duplicate. A long duplicate brings all the shorter ones inside it along, so the
list of duplicates is thinned: `resolveOverlaps` goes through it from the largest to the smallest, in the
given order among those of one size, and keeps each that overlaps none it has kept.

Duplicates overlap only within one ordered pair of files. So the kept ones are indexed by pair (`Kept`), and
a new one is compared with those of its own pair alone.
-/

namespace Checkup.Duplication

/-- Two windows of different files with one fingerprint. -/
structure Duplicate where
  /-- The file that comes first. -/
  fileA : String
  /-- The file that comes later. -/
  fileB : String
  rangeA : LineRange
  rangeB : LineRange
  lineCount : Nat
  /-- The first lines of the later window. -/
  sample : String
  deriving DecidableEq, Repr

namespace Duplicate

/-- The ordered pair of files that a duplicate concerns. -/
def files (d : Duplicate) : String × String :=
  (d.fileA, d.fileB)

/-- Whether two duplicates concern the same pair of files, in the same order, and share a line on one of the
sides. -/
def overlaps (d e : Duplicate) : Bool :=
  d.fileA == e.fileA && d.fileB == e.fileB
    && (d.rangeA.overlaps e.rangeA || d.rangeB.overlaps e.rangeB)

/-- The order of size, the largest first. -/
def atLeast (d e : Duplicate) : Bool :=
  e.lineCount ≤ d.lineCount

end Duplicate

/-- The duplicates kept so far, in order, with an index of them by pair of files. -/
structure Kept where
  duplicates : Array Duplicate
  /-- The places of the duplicates kept of each pair of files, the latest first. -/
  places : Std.HashMap (String × String) (List Nat)
  /-- The index lists the kept duplicates of a pair, all of them and no others. -/
  mem_places : ∀ pair i, i ∈ places.getD pair [] ↔
    ∃ _ : i < duplicates.size, duplicates[i].files = pair

namespace Kept

/-- Nothing kept. -/
def empty : Kept where
  duplicates := #[]
  places := ∅
  mem_places := by simp

/-- Whether a kept duplicate of the same pair of files overlaps `d`. -/
def blocks (kept : Kept) (d : Duplicate) : Bool :=
  (kept.places.getD d.files []).attach.any fun place =>
    have := ((kept.mem_places _ _).mp place.2).elim fun h _ => h
    kept.duplicates[place.1].overlaps d

/-- One more duplicate kept. -/
def push (kept : Kept) (d : Duplicate) : Kept where
  duplicates := kept.duplicates.push d
  places := kept.places.insert d.files (kept.duplicates.size :: kept.places.getD d.files [])
  mem_places pair i := by
    have old := kept.mem_places pair i
    rw [Std.HashMap.getD_insert]
    grind

/-- Keeps a duplicate unless one kept before overlaps it. -/
def offer (kept : Kept) (d : Duplicate) : Kept :=
  if kept.blocks d then kept else kept.push d

end Kept

/-- The duplicates from the largest to the smallest, each kept unless it overlaps one kept before it. -/
def resolveOverlaps (duplicates : List Duplicate) : List Duplicate :=
  ((duplicates.mergeSort Duplicate.atLeast).foldl Kept.offer Kept.empty).duplicates.toList

end Checkup.Duplication
