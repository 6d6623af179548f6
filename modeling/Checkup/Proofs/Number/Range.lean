import Checkup.Number.Measure
import Checkup.Proofs.Number.Double

/-!
# Doubles that stay in range

A double is known to be finite once it stands for a number up to some power of two (`IsUpTo`), and powers of two
can be followed through a computation without its exact results: those of products add up (`IsUpTo.mul`), and a
quotient by a whole number is no greater than what is divided (`IsUpTo.div_ofNat`).

* **Sums** — every term adds to an exact sum, but not to a rounded one: what is less than half of the last bit
  of the sum is lost (`IsUpTo.add_of_le`). So the sum of any number of terms is bounded by the terms alone
  (`isUpTo_sum`).
* **Scores** — moving a number into the range from 0 to 100 has a result in that range for every double, the
  infinite ones and what is no number included (`isUpTo_clamp`).
-/

namespace Checkup.Number

/-- A double that stands for a number from 0 to `2 ^ k`. -/
def IsUpTo (k : Nat) (x : Float) : Prop :=
  ∃ q ≤ (2 : Rat) ^ (k : Int), Denotes x q

section Range

variable {x y : Float} {j k n : Nat}

theorem IsUpTo.isFinite (h : IsUpTo k x) : x.isFinite = true := by
  obtain ⟨q, -, hx⟩ := h
  exact hx.isFinite

theorem zpow_natCast_mono (hjk : j ≤ k) : (2 : Rat) ^ (j : Int) ≤ 2 ^ (k : Int) :=
  zpow_le_zpow_right₀ one_le_two (by omega)

theorem isUpTo_zero (k : Nat) : IsUpTo k (Float.ofNat 0) :=
  ⟨0, by positivity, .zero unpack_ofNat_zero⟩

theorem isUpTo_ofNat (hn : n < Word.size) : IsUpTo 64 (Float.ofNat n) :=
  ⟨_, rounded_le_zpow (by omega) (Nat.cast_nonneg n) (natCast_le_zpow hn), denotes_ofNat hn⟩

theorem IsUpTo.mul (hx : IsUpTo j x) (hy : IsUpTo k y) (hjk : j + k ≤ 1000) : IsUpTo (j + k) (x * y) := by
  obtain ⟨p, hp, hx⟩ := hx
  obtain ⟨q, hq, hy⟩ := hy
  have hproduct : p * q ≤ 2 ^ ((j + k : Nat) : Int) := by
    rw [Nat.cast_add, zpow_add₀ two_ne_zero]
    exact mul_le_mul hp hq hy.nonneg (by positivity)
  exact ⟨_, rounded_le_zpow (by omega) (mul_nonneg hx.nonneg hy.nonneg) hproduct,
    hx.mul hy (hproduct.trans (zpow_natCast_mono hjk))⟩

theorem IsUpTo.div_ofNat (hx : IsUpTo k x) (hk : k ≤ 1000) (hpos : 0 < n) (hn : n < Word.size) :
    IsUpTo k (x / Float.ofNat n) := by
  obtain ⟨p, hp, hx⟩ := hx
  have hone : 1 ≤ rounded n := one_le_rounded (by exact_mod_cast hpos)
  have hquotient : p / rounded n ≤ 2 ^ (k : Int) := (div_le_self hx.nonneg hone).trans hp
  exact ⟨_, rounded_le_zpow (by omega) (div_nonneg hx.nonneg (zero_le_one.trans hone)) hquotient,
    hx.div (denotes_ofNat hn) (one_pos.trans_le hone) (hquotient.trans (zpow_natCast_mono hk))⟩

/-! ### Sums -/

/-- A term that is less than a bound by 53 bits does not lift a sum above the bound. -/
theorem IsUpTo.add_of_le (hx : IsUpTo k x) (hy : IsUpTo j y) (hjk : j + 53 ≤ k) (hk : k < 1000) :
    IsUpTo k (x + y) := by
  obtain ⟨p, hp, hx⟩ := hx
  obtain ⟨q, hq, hy⟩ := hy
  have hsum : p + q ≤ 2 ^ (k : Int) + 2 ^ (j : Int) := add_le_add hp hq
  have hhigh : p + q ≤ 2 ^ (1000 : Int) :=
    calc p + q ≤ 2 ^ (k : Int) + 2 ^ (k : Int) := hsum.trans (add_le_add_right (zpow_natCast_mono (by omega)) _)
      _ = 2 ^ ((k + 1 : Nat) : Int) := by rw [Nat.cast_succ, zpow_add_one₀ two_ne_zero, mul_two]
      _ ≤ 2 ^ (1000 : Int) := zpow_natCast_mono hk
  have hrounded : rounded (p + q) ≤ 2 ^ (k : Int) :=
    calc rounded (p + q) ≤ rounded (2 ^ (k : Int) + 2 ^ (j : Int)) :=
          rounded_mono (add_nonneg hx.nonneg hy.nonneg) hsum
      _ = 2 ^ (k : Int) := rounded_zpow_add_zpow (by omega) (by omega)
  exact ⟨_, hrounded, hx.add hy hhigh⟩

theorem isUpTo_foldl_add {xs : List Float} (hjk : j + 53 ≤ k) (hk : k < 1000) (h : ∀ x ∈ xs, IsUpTo j x) :
    ∀ {start : Float}, IsUpTo k start → IsUpTo k (xs.foldl (· + ·) start) := by
  induction xs with
  | nil => exact id
  | cons x xs ih =>
    obtain ⟨hx, hxs⟩ := List.forall_mem_cons.mp h
    exact fun hstart => ih hxs (hstart.add_of_le hx hjk hk)

/-- A sum is bounded by a bound on its terms, however many there are. -/
theorem isUpTo_sum {xs : List Float} (hj : j + 53 < 1000) (h : ∀ x ∈ xs, IsUpTo j x) :
    IsUpTo (j + 53) (Measure.sum xs) :=
  isUpTo_foldl_add le_rfl hj h (isUpTo_zero _)

/-! ### Scores -/

/-- A score is in range, whatever it was before. -/
theorem isUpTo_clamp (x : Float) : IsUpTo 7 (Measure.clamp x) := by
  have hhundred : Denotes (Float.ofNat 100) 100 := denotes_ofNat_of_lt (by norm_num)
  have hbound : (100 : Rat) ≤ 2 ^ (7 : Int) := by norm_num
  rw [Measure.clamp]
  split_ifs with hnan hlow hhigh
  · exact isUpTo_zero 7
  · exact isUpTo_zero 7
  · exact ⟨100, hbound, hhundred⟩
  · obtain ⟨p, hp, hx⟩ := exists_denotes_of_not_lt (eq_false_of_ne_true hnan) (fun h => hlow (decide_eq_true h))
      hhundred fun h => hhigh (decide_eq_true h)
    exact ⟨p, hp.trans hbound, hx⟩

end Range

end Checkup.Number
