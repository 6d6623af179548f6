import Mathlib

/-!
# Rounding to the bits of a double

A double has 53 bits, or fewer where its last bit would be less than the least double. The exponent of the last
bit that it has for a positive number is `lastBit`, and `rounded` is the number rounded to that bit: to the
nearest, and to the even one of two (`nearestEven`). Rounding keeps the order (`rounded_mono`) and leaves
numbers of 53 bits alone (`rounded_mul_zpow`), so bounds that are doubles are bounds on what is rounded
(`rounded_mem_Icc`).

While bits are shifted out of a mantissa, two more bits tell where in between two integers the number is
(`Represents`). Shifting keeps this (`Represents.shiftRight`), and it is all that is needed to round
(`Represents.roundedMantissa_eq`).
-/

namespace Checkup.Number

open Float.Model Float.Model.UnpackedFloat

/-! ### The nearest integer -/

/-- The nearest integer; of two, the even one. -/
def nearestEven (x : Rat) : Int :=
  if x < ⌊x⌋ + 1 / 2 then ⌊x⌋ else if ⌊x⌋ + 1 / 2 < x then ⌊x⌋ + 1 else ⌊x⌋ + ⌊x⌋ % 2

theorem nearestEven_intCast (n : Int) : nearestEven n = n := by
  rw [nearestEven, Int.floor_intCast, if_pos (by norm_num)]

theorem floor_le_nearestEven (x : Rat) : ⌊x⌋ ≤ nearestEven x := by
  rw [nearestEven]
  split_ifs <;> omega

theorem nearestEven_le (x : Rat) : nearestEven x ≤ ⌊x⌋ + 1 := by
  rw [nearestEven]
  split_ifs <;> omega

theorem nearestEven_mono : Monotone nearestEven := by
  intro x y hxy
  rcases (Int.floor_mono hxy).lt_or_eq with hlt | heq
  · calc nearestEven x ≤ ⌊x⌋ + 1 := nearestEven_le x
      _ ≤ ⌊y⌋ := hlt
      _ ≤ nearestEven y := floor_le_nearestEven y
  · rw [nearestEven, nearestEven, heq]
    split_ifs
    all_goals first | omega | (exfalso; linarith)

/-- An even integer is the nearest to what is no more than a half above it. -/
theorem nearestEven_add_of_le_half {n : Int} (hn : n % 2 = 0) {x : Rat} (hpos : 0 ≤ x) (hx : x ≤ 1 / 2) :
    nearestEven (n + x) = n := by
  have hfloor : ⌊(n : Rat) + x⌋ = n := by
    rw [Int.floor_eq_iff]
    constructor <;> linarith
  rw [nearestEven, hfloor]
  split_ifs
  · rfl
  · exfalso
    linarith
  · omega

/-! ### Rounding to the bits of a double -/

/-- The exponent of the last bit that a double has for a positive number: that of the 53rd bit, or of the least
double. -/
def lastBit (q : Rat) : Int :=
  max (Int.log 2 q - 52) (-1074)

/-- The number rounded to its last bit. -/
def rounded (q : Rat) : Rat :=
  nearestEven (q / 2 ^ lastBit q) * 2 ^ lastBit q

section Rounded

variable {p q : Rat} {k : Int}

theorem le_lastBit (q : Rat) : -1074 ≤ lastBit q :=
  le_max_right _ _

theorem lastBit_le_iff (hq : 0 < q) : lastBit q ≤ k ↔ q < 2 ^ (53 + k) ∧ -1074 ≤ k := by
  have hlog : q < 2 ^ (53 + k) ↔ Int.log 2 q < 53 + k := by
    rw [← Int.lt_zpow_iff_log_lt one_lt_two hq, Nat.cast_ofNat]
  rw [lastBit, max_le_iff, hlog]
  omega

/-- Scaled by its last bit, a number has 53 bits before the point at most. -/
theorem scaled_lt (hq : 0 < q) : q / 2 ^ lastBit q < 2 ^ 53 := by
  rw [div_lt_iff₀ (by positivity)]
  have hlt := ((lastBit_le_iff hq).mp le_rfl).1
  rwa [zpow_add₀ two_ne_zero] at hlt

/-- It has all 53 unless its last bit is that of the least double. -/
theorem le_scaled (hq : 0 < q) (hlast : -1074 < lastBit q) : 2 ^ 52 ≤ q / 2 ^ lastBit q := by
  rw [le_div_iff₀ (by positivity)]
  by_contra hlt
  have hle : lastBit q ≤ lastBit q - 1 := by
    refine (lastBit_le_iff hq).mpr ⟨?_, by omega⟩
    rw [show 53 + (lastBit q - 1) = 52 + lastBit q by omega, zpow_add₀ two_ne_zero]
    exact not_le.mp hlt
  omega

theorem nearestEven_scaled_mem_Icc (hq : 0 < q) : nearestEven (q / 2 ^ lastBit q) ∈ Set.Icc 0 (2 ^ 53) := by
  constructor
  · calc (0 : Int) = nearestEven ((0 : Int) : Rat) := (nearestEven_intCast 0).symm
      _ ≤ nearestEven (q / 2 ^ lastBit q) := nearestEven_mono (by rw [Int.cast_zero]; positivity)
  · calc nearestEven (q / 2 ^ lastBit q) ≤ nearestEven ((2 ^ 53 : Int) : Rat) :=
          nearestEven_mono (by exact_mod_cast (scaled_lt hq).le)
      _ = 2 ^ 53 := nearestEven_intCast _

theorem le_nearestEven_scaled (hq : 0 < q) (hlast : -1074 < lastBit q) :
    2 ^ 52 ≤ nearestEven (q / 2 ^ lastBit q) :=
  calc (2 ^ 52 : Int) = nearestEven ((2 ^ 52 : Int) : Rat) := (nearestEven_intCast _).symm
    _ ≤ nearestEven (q / 2 ^ lastBit q) := nearestEven_mono (by exact_mod_cast le_scaled hq hlast)

theorem rounded_zero : rounded 0 = 0 := by
  have hzero : nearestEven (0 / 2 ^ lastBit 0) = 0 := by
    rw [zero_div]
    exact_mod_cast nearestEven_intCast 0
  rw [rounded, hzero, Int.cast_zero, zero_mul]

/-- Rounding keeps the order. -/
theorem rounded_mono (hp : 0 ≤ p) (hpq : p ≤ q) : rounded p ≤ rounded q := by
  rcases hp.lt_or_eq with hp | rfl
  · have hq := hp.trans_le hpq
    have hlast : lastBit p ≤ lastBit q := by
      obtain ⟨hlt, hle⟩ := (lastBit_le_iff hq).mp le_rfl
      exact (lastBit_le_iff hp).mpr ⟨hpq.trans_lt hlt, hle⟩
    rcases hlast.lt_or_eq with hlt | heq
    · -- a power of two is in between
      have hmp : (nearestEven (p / 2 ^ lastBit p) : Rat) ≤ 2 ^ 53 := by
        exact_mod_cast (nearestEven_scaled_mem_Icc hp).2
      have hmq : (2 ^ 52 : Rat) ≤ nearestEven (q / 2 ^ lastBit q) := by
        exact_mod_cast le_nearestEven_scaled hq ((le_lastBit p).trans_lt hlt)
      calc rounded p ≤ 2 ^ (52 + 1) * 2 ^ lastBit p := by rw [rounded]; gcongr
        _ = 2 ^ 52 * 2 ^ (lastBit p + 1) := by rw [pow_succ, zpow_add_one₀ two_ne_zero]; ring
        _ ≤ 2 ^ 52 * 2 ^ lastBit q := by gcongr; exacts [one_le_two, hlt]
        _ ≤ rounded q := by rw [rounded]; gcongr
    · rw [rounded, rounded, heq]
      gcongr
      exact nearestEven_mono (by gcongr)
  · rw [rounded_zero, rounded]
    rcases hpq.lt_or_eq with hq | rfl
    · have hmantissa : (0 : Rat) ≤ nearestEven (q / 2 ^ lastBit q) := by
        exact_mod_cast (nearestEven_scaled_mem_Icc hq).1
      positivity
    · rw [← rounded, rounded_zero]

/-- Numbers with a mantissa of 53 bits are kept. -/
theorem rounded_mul_zpow {m : Nat} (hm : m < 2 ^ 53) {e : Int} (he : -1074 ≤ e) :
    rounded (m * 2 ^ e) = m * 2 ^ e := by
  rcases Nat.eq_zero_or_pos m with rfl | hpos
  · rw [Nat.cast_zero, zero_mul, rounded_zero]
  · have hlast : lastBit (m * 2 ^ e) ≤ e := by
      refine (lastBit_le_iff (by positivity)).mpr ⟨?_, he⟩
      rw [zpow_add₀ two_ne_zero]
      gcongr
      exact_mod_cast hm
    obtain ⟨k, hk⟩ := Int.le.dest hlast
    have hint : (m : Rat) * 2 ^ e / 2 ^ lastBit (m * 2 ^ e) = (m * 2 ^ k : Int) := by
      have hexponent : e - lastBit (m * 2 ^ e) = k := by omega
      rw [mul_div_assoc, ← zpow_sub₀ two_ne_zero, hexponent, zpow_natCast]
      push_cast
      rfl
    rw [rounded, hint, nearestEven_intCast, ← hint, div_mul_cancel₀ _ (by positivity)]

theorem rounded_natCast {n : Nat} (hn : n < 2 ^ 53) : rounded n = n := by
  have hkept := rounded_mul_zpow hn (show -1074 ≤ 0 by omega)
  rwa [zpow_zero, mul_one] at hkept

theorem rounded_one : rounded 1 = 1 := by
  exact_mod_cast rounded_natCast (n := 1) (by norm_num)

theorem rounded_zpow (hk : -1074 ≤ k) : rounded (2 ^ k) = 2 ^ k := by
  have hkept := rounded_mul_zpow (m := 1) (by norm_num) hk
  rwa [Nat.cast_one, one_mul] at hkept

theorem rounded_le_zpow (hk : -1074 ≤ k) (hq : 0 ≤ q) (h : q ≤ 2 ^ k) : rounded q ≤ 2 ^ k :=
  rounded_zpow hk ▸ rounded_mono hq h

theorem one_le_rounded (h : 1 ≤ q) : 1 ≤ rounded q :=
  rounded_one ▸ rounded_mono zero_le_one h

/-- Bounds that are doubles are bounds on what is rounded. -/
theorem rounded_mem_Icc {a b : Rat} (hpos : 0 ≤ a) (ha : rounded a = a) (hb : rounded b = b)
    (hq : q ∈ Set.Icc a b) : rounded q ∈ Set.Icc a b :=
  ⟨ha ▸ rounded_mono hpos hq.1, hb ▸ rounded_mono (hpos.trans hq.1) hq.2⟩

/-- Adding to a power of two what is no more than half of its last bit changes nothing. -/
theorem rounded_zpow_add_zpow {j : Int} (hk : -1022 ≤ k) (hjk : j + 53 ≤ k) : rounded (2 ^ k + 2 ^ j) = 2 ^ k := by
  have hj : (2 : Rat) ^ j ≤ 2 ^ (k - 53) := zpow_le_zpow_right₀ one_le_two (by omega)
  have hlast : lastBit (2 ^ k + 2 ^ j) = k - 52 := by
    refine le_antisymm ((lastBit_le_iff (by positivity)).mpr ⟨?_, by omega⟩) ?_
    · have hlt : (2 : Rat) ^ (k - 53) < 2 ^ k := zpow_lt_zpow_right₀ one_lt_two (by omega)
      calc (2 : Rat) ^ k + 2 ^ j < 2 ^ k + 2 ^ k := by linarith
        _ = 2 ^ (53 + (k - 52)) := by rw [show 53 + (k - 52) = k + 1 by omega, zpow_add_one₀ two_ne_zero]; ring
    · by_contra hlt
      have hle : lastBit (2 ^ k + 2 ^ j) ≤ k - 53 := by omega
      have habove := ((lastBit_le_iff (by positivity)).mp hle).1
      rw [show 53 + (k - 53) = k by omega] at habove
      have : (0 : Rat) < 2 ^ j := by positivity
      linarith
  have hscaled : ((2 : Rat) ^ k + 2 ^ j) / 2 ^ (k - 52) = (2 ^ 52 : Int) + 2 ^ (j - (k - 52)) := by
    rw [add_div, ← zpow_sub₀ two_ne_zero, ← zpow_sub₀ two_ne_zero, sub_sub_cancel]
    push_cast
    rfl
  have hhalf : (2 : Rat) ^ (j - (k - 52)) ≤ 1 / 2 := by
    calc (2 : Rat) ^ (j - (k - 52)) ≤ 2 ^ (-1 : Int) := zpow_le_zpow_right₀ one_le_two (by omega)
      _ = 1 / 2 := by norm_num
  rw [rounded, hlast, hscaled, nearestEven_add_of_le_half (by decide) (by positivity) hhalf]
  calc ((2 ^ 52 : Int) : Rat) * 2 ^ (k - 52) = 2 ^ (52 : Int) * 2 ^ (k - 52) := by norm_num
    _ = 2 ^ k := by rw [← zpow_add₀ two_ne_zero, add_sub_cancel]

end Rounded

/-! ### Dropped bits -/

/-- A number is where a mantissa and the two bits that tell about the dropped ones have it: the one bit is the
first of those, the other tells whether there are any after it. -/
def Represents : ExtendedMantissa → Rat → Prop
  | ⟨m, false, false⟩, x => x = m
  | ⟨m, false, true⟩, x => m < x ∧ x < m + 1 / 2
  | ⟨m, true, false⟩, x => x = m + 1 / 2
  | ⟨m, true, true⟩, x => m + 1 / 2 < x ∧ x < m + 1

section Represents

variable {em : ExtendedMantissa} {x : Rat}

theorem Represents.bounds (h : Represents em x) : em.mantissa ≤ x ∧ x < em.mantissa + 1 := by
  obtain ⟨m, round, sticky⟩ := em
  cases round <;> cases sticky <;> simp only [Represents] at h ⊢ <;> constructor <;> linarith

/-- The two bits are enough to round. -/
theorem Represents.roundedMantissa_eq (h : Represents em x) : (em.roundedMantissa : Int) = nearestEven x := by
  have hfloor : ⌊x⌋ = em.mantissa := by
    rw [Int.floor_eq_iff]
    exact_mod_cast h.bounds
  obtain ⟨m, round, sticky⟩ := em
  rw [nearestEven, hfloor]
  cases round <;> cases sticky <;>
    simp only [Represents, ExtendedMantissa.roundedMantissa, ExtendedMantissa.accuracy,
      Accuracy.roundToNearestEven, Int.cast_natCast] at h ⊢
  · rw [if_pos (by linarith)]
  · rw [if_pos h.2]
  · rw [if_neg (by linarith), if_neg (by linarith)]
    push_cast
    rfl
  · rw [if_neg (by linarith), if_pos h.1]
    push_cast
    rfl

theorem Represents.shiftRightOne (h : Represents em x) : Represents em.shiftRightOne (x / 2) := by
  obtain ⟨m, round, sticky⟩ := em
  have hdiv : (m : Rat) = 2 * (m / 2 : Nat) + (m % 2 : Nat) := by exact_mod_cast (Nat.div_add_mod m 2).symm
  -- the last bit of the mantissa becomes the first of the dropped ones
  rcases Nat.mod_two_eq_zero_or_one m with hm | hm <;> rw [hm] at hdiv <;>
    cases round <;> cases sticky <;> simp [Represents, ExtendedMantissa.shiftRightOne, hm] at h hdiv ⊢
  all_goals first | linarith | (constructor <;> linarith)

theorem Represents.shiftRight (h : Represents em x) (k : Nat) : Represents (em >>> k) (x / 2 ^ k) := by
  induction k with
  | zero => simpa [HShiftRight.hShiftRight, Nat.repeat] using h
  | succ k ih =>
    rw [pow_succ, ← div_div]
    exact ih.shiftRightOne

theorem mantissa_ofMantissaAndAccuracy (m : Nat) (a : Accuracy) :
    (ExtendedMantissa.ofMantissaAndAccuracy m a).mantissa = m := by
  cases a with
  | exact => rfl
  | inexact o => cases o <;> rfl

theorem represents_exact (m : Nat) (e : Int) : Represents (.ofMantissaAndAccuracy m .exact) (m * 2 ^ e / 2 ^ e) :=
  mul_div_cancel_right₀ _ (by positivity)

/-- What is left in a division tells where the quotient is. -/
theorem represents_div (m : Nat) {d : Nat} (hd : 0 < d) :
    Represents (.ofMantissaAndAccuracy (m / d) (accuracyOfFraction (m % d) d)) (m / d) := by
  have hpos : (0 : Rat) < d := by exact_mod_cast hd
  have hlt : ((m % d : Nat) : Rat) / d < 1 := (div_lt_one hpos).mpr (by exact_mod_cast Nat.mod_lt m hd)
  have hquotient : (m / d : Rat) = (m / d : Nat) + (m % d : Nat) / d := by
    have hdiv : (m : Rat) = d * (m / d : Nat) + (m % d : Nat) := by exact_mod_cast (Nat.div_add_mod m d).symm
    rw [add_div' _ _ _ hpos.ne', mul_comm, ← hdiv]
  rw [hquotient, accuracyOfFraction]
  split_ifs with hzero
  · simp [ExtendedMantissa.ofMantissaAndAccuracy, Represents, hzero]
  · have hleft : (0 : Rat) < (m % d : Nat) / d := div_pos (by exact_mod_cast Nat.pos_of_ne_zero hzero) hpos
    cases hhalf : compare (2 * (m % d)) d with
    | lt =>
      have h : ((m % d : Nat) : Rat) / d < 1 / 2 := by
        rw [div_lt_div_iff₀ hpos two_pos]
        exact_mod_cast (by have := Nat.compare_eq_lt.mp hhalf; omega)
      exact ⟨by linarith, by linarith⟩
    | eq =>
      have h : ((m % d : Nat) : Rat) / d = 1 / 2 := by
        rw [div_eq_div_iff hpos.ne' two_ne_zero]
        exact_mod_cast (by have := Nat.compare_eq_eq.mp hhalf; omega)
      simp only [ExtendedMantissa.ofMantissaAndAccuracy, Represents, h]
    | gt =>
      have h : 1 / 2 < ((m % d : Nat) : Rat) / d := by
        rw [div_lt_div_iff₀ two_pos hpos]
        exact_mod_cast (by have := Nat.compare_eq_gt.mp hhalf; omega)
      exact ⟨by linarith, by linarith⟩

end Represents

end Checkup.Number
