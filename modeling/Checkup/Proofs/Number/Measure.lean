import Checkup.Number.Measure
import Mathlib.Algebra.BigOperators.Ring.List
import Mathlib.Algebra.Order.BigOperators.Group.List
import Mathlib.Algebra.Order.Field.Rat

/-!
# Scores in exact arithmetic

Over the rationals the operations of `Measure` are those of the ordered field, so the laws of scoring are read
off Mathlib: comparisons are comparisons (`lt_eq_true_iff`), the sum from the left is the sum (`sum_eq`), and
`clamp` moves a number into the range from 0 to 100 (`clamp_nonneg`, `clamp_le`) and leaves the numbers of the
range alone (`clamp_eq_self`).
-/

namespace Checkup.Measure

theorem lt_eq_true_iff {x y : Rat} : Measure.lt x y = true ↔ x < y :=
  decide_eq_true_iff

theorem ofNat_eq (n : Nat) : (Measure.ofNat n : Rat) = n :=
  rfl

theorem sum_eq (xs : List Rat) : Measure.sum xs = xs.sum :=
  List.sum_eq_foldl.symm

/-! ### Moving into the range of scores -/

theorem clamp_eq_ite (x : Rat) : clamp x = if x < 0 then 0 else if 100 < x then 100 else x := by
  have hnumber : Measure.isNaN x = false := rfl
  rw [clamp, hnumber, if_neg Bool.false_ne_true]
  simp only [lt_eq_true_iff, ofNat_eq, Nat.cast_zero, Nat.cast_ofNat]

theorem clamp_nonneg (x : Rat) : 0 ≤ clamp x := by
  rw [clamp_eq_ite]
  split
  · exact le_refl 0
  · next hx =>
    split
    · decide
    · exact not_lt.mp hx

theorem clamp_le (x : Rat) : clamp x ≤ 100 := by
  rw [clamp_eq_ite]
  split
  · decide
  · split
    · exact le_refl 100
    · next hx => exact not_lt.mp hx

theorem clamp_eq_self {x : Rat} (h0 : 0 ≤ x) (h100 : x ≤ 100) : clamp x = x := by
  rw [clamp_eq_ite, if_neg (not_lt.mpr h0), if_neg (not_lt.mpr h100)]

end Checkup.Measure
