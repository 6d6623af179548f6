/-!
# Sets of code points

A property of characters is kept as a set of code points: closed ranges in ascending order, apart from
one another. Membership halves the candidate ranges at each step, so a look-up in the largest table of
this library inspects ten ranges.
-/

namespace Checkup.Text

/-- Closed ranges of code points, in ascending order and apart from one another. -/
structure CodePoints where
  ranges : Array (Nat × Nat)

namespace CodePoints

/-- Whether one of the ranges with index `i`, `lo ≤ i < hi`, holds `n`. -/
def containsBetween (ranges : Array (Nat × Nat)) (n lo hi : Nat) : Bool :=
  if lo < hi then
    let mid := (lo + hi) / 2
    let (first, last) := ranges.getD mid (1, 0)
    if n < first then containsBetween ranges n lo mid
    else if last < n then containsBetween ranges n (mid + 1) hi
    else true
  else false
termination_by hi - lo

/-- Whether the code point `n` belongs to the set. -/
def contains (points : CodePoints) (n : Nat) : Bool :=
  containsBetween points.ranges n 0 points.ranges.size

end CodePoints

end Checkup.Text
