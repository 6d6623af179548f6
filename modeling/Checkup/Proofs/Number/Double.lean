import Checkup.Number.Word
import Checkup.Proofs.Number.Rounding

/-!
# Doubles as rounded numbers

A double that is finite and not negative stands for 0 or for `mantissa · 2 ^ exponent` (`Denotes`). Sums,
products and quotients of such doubles, and the doubles of natural numbers, are the exact results rounded
(`Denotes.add`, `Denotes.mul`, `Denotes.div`, `denotes_ofNat`), and comparisons are those of the exact numbers
(`Denotes.lt_iff`, `Denotes.le_iff`). So bounds on exact results are bounds on doubles.

* **Packing** — the bits of a double have room for every number of 53 bits, and for those of fewer bits and the
  least exponent (`unpack_pack`).
* **Rounding** — a mantissa is rounded right, whether bits were dropped before or not, unless it has been
  shifted beyond the last bit of its number (`denotes_round`). A mantissa that is rounded up to `2 ^ 53` becomes
  `2 ^ 52` with the next exponent; one that is rounded down to 0 becomes the double 0.
* **Range** — there is no lower end to exact results. The upper one is `2 ^ 1000` here, so that no exponent
  overflows.
-/

namespace Checkup.Number

open Float.Model Float.Model.UnpackedFloat

/-! ### The bits of a double -/

section Pack

variable {s : Sign} {m : Nat} {e : Int}

/-- The numbers that doubles hold have 53 bits, or fewer and the least exponent. -/
def IsCanonical (m : Nat) (e : Int) : Prop :=
  m < 2 ^ 53 ∧ -1074 ≤ e ∧ (2 ^ 52 ≤ m ∨ e = -1074)

theorem toNat_one_append (v : BitVec 52) : (1#1 ++ v).toNat = 2 ^ 52 + v.toNat := by
  rw [BitVec.toNat_append, ← Nat.shiftLeft_add_eq_or_of_lt v.isLt]
  rfl

theorem isCanonical_of_unpack {x : Float.Model} {hm : 0 < m} (h : x.unpack = .finite s m e hm) : IsCanonical m e := by
  have hbias : Format.binary64.exponentBias = 1023 := rfl
  have hmantissa : (@unpackMantissa .binary64 x.toBits.toBitVec).toNat < 2 ^ 52 := BitVec.isLt _
  rw [Float.Model.unpack, UnpackedFloat.unpack] at h
  dsimp only at h
  split_ifs at h with hinfinite hnan hsmall hzero
  · obtain ⟨-, rfl, rfl⟩ := UnpackedFloat.finite.inj h
    have hexponent : (@unpackExponent .binary64 x.toBits.toBitVec).toNat = 0 := by rw [hsmall]; rfl
    rw [hexponent, hbias]
    exact ⟨by omega, by omega, .inr (by omega)⟩
  · obtain ⟨-, rfl, rfl⟩ := UnpackedFloat.finite.inj h
    have hexponent : (@unpackExponent .binary64 x.toBits.toBitVec).toNat ≠ 0 :=
      fun hzero => hsmall (BitVec.eq_of_toNat_eq hzero)
    rw [toNat_one_append, hbias]
    exact ⟨by omega, by omega, .inl (by omega)⟩

theorem pack_unpack_model (x : Float.Model) : Float.Model.pack x.unpack = x := by
  obtain ⟨⟨bits⟩, hvalid⟩ := x
  simp only [Float.Model.pack, Float.Model.unpack, pack_unpack_of_valid hvalid]

theorem unpack_pack_zero (s : Sign) : (Float.Model.pack (.zero s)).unpack = .zero s :=
  unpack_packedZero

theorem unpack_pack_normal (h : 0 < m) (hlow : 2 ^ 52 ≤ m) (hlt : m < 2 ^ 53) (he : -1074 ≤ e) (he' : e ≤ 971) :
    (Float.Model.pack (.finite s m e h)).unpack = .finite s m e h := by
  have hbias : Format.binary64.exponentBias = 1023 := rfl
  have hlog : m.log2 = 52 := (Nat.log2_eq_iff h.ne').mpr ⟨hlow, hlt⟩
  obtain ⟨b, hb⟩ := Int.eq_ofNat_of_zero_le (show 0 ≤ e + 1075 by omega)
  have hbiased : (e + (Format.binary64.exponentBias : Int) +
      (Format.binary64.mantissaBitsWithoutImplicit : Int)).toNat = b := by
    change (e + (1023 : Nat) + (52 : Nat)).toNat = b
    omega
  have hbits : (Float.Model.pack (.finite s m e h)).toBits.toBitVec =
      packComponents .binary64 s (.ofNat 11 b) (.ofNat 52 m) := by
    simp only [Float.Model.pack, UnpackedFloat.pack, hbiased, Format.mantissaBits, hlog]
    rw [if_neg (by omega), if_pos trivial]
  have hexponent : (BitVec.ofNat 11 b).toNat = b := by
    rw [BitVec.toNat_ofNat, Nat.mod_eq_of_lt (by omega)]
  have hfinite : BitVec.ofNat 11 b ≠ -1#11 := by
    intro heq
    have hall : b = 2047 := hexponent.symm.trans (congrArg BitVec.toNat heq)
    omega
  have hpos : BitVec.ofNat 11 b ≠ 0#11 := by
    intro heq
    have hnone : b = 0 := hexponent.symm.trans (congrArg BitVec.toNat heq)
    omega
  -- the first bit of the mantissa is not among the bits, and is put back
  have hmantissa : (1#1 ++ BitVec.ofNat 52 m).toNat = m := by
    rw [toNat_one_append, BitVec.toNat_ofNat]
    omega
  rw [Float.Model.unpack, hbits, UnpackedFloat.unpack]
  simp only [unpackExponent_packComponents, unpackMantissa_packComponents, unpackSign_packComponents,
    Sign.ofBitVec_toBitVec, hfinite, hpos, if_false, hmantissa, hexponent, hbias]
  congr 1
  omega

theorem unpack_pack_subnormal (h : 0 < m) (hlt : m < 2 ^ 52) :
    (Float.Model.pack (.finite s m (-1074) h)).unpack = .finite s m (-1074) h := by
  have hlog : m.log2 < 52 := (Nat.log2_lt h.ne').mpr hlt
  have hbiased : (-1074 + (Format.binary64.exponentBias : Int) +
      (Format.binary64.mantissaBitsWithoutImplicit : Int)).toNat = 1 := rfl
  have hbits : (Float.Model.pack (.finite s m (-1074) h)).toBits.toBitVec =
      packComponents .binary64 s 0#11 (.ofNat 52 m) := by
    simp only [Float.Model.pack, UnpackedFloat.pack, hbiased, Format.mantissaBits]
    rw [if_neg (by decide), if_neg (by omega)]
  have hmantissa : (BitVec.ofNat 52 m).toNat = m := by
    rw [BitVec.toNat_ofNat, Nat.mod_eq_of_lt (by omega)]
  have hpos : BitVec.ofNat 52 m ≠ 0#52 := by
    intro heq
    have hnone : m = 0 := hmantissa.symm.trans (congrArg BitVec.toNat heq)
    omega
  have hfinite : (0#11 : BitVec 11) ≠ -1#11 := by decide
  rw [Float.Model.unpack, hbits, UnpackedFloat.unpack]
  simp only [unpackExponent_packComponents, unpackMantissa_packComponents, unpackSign_packComponents,
    Sign.ofBitVec_toBitVec, hfinite, hpos, if_false, if_true, hmantissa]
  rfl

/-- A number that a double can hold is kept in its bits. -/
theorem unpack_pack (h : 0 < m) (hm : IsCanonical m e) (he : e ≤ 971) :
    (Float.Model.pack (.finite s m e h)).unpack = .finite s m e h := by
  obtain ⟨hlt, hlow, hcase⟩ := hm
  by_cases hnormal : 2 ^ 52 ≤ m
  · exact unpack_pack_normal h hnormal hlt hlow he
  · obtain rfl := hcase.resolve_left hnormal
    exact unpack_pack_subnormal h (not_le.mp hnormal)

end Pack

/-! ### Numbers that doubles stand for -/

/-- A double stands for a number that is not negative. -/
inductive Denotes : Float → Rat → Prop
  | zero {x : Float} {s : Sign} (h : x.toModel.unpack = .zero s) : Denotes x 0
  | finite {x : Float} {m : Nat} {e : Int} {hm : 0 < m} (h : x.toModel.unpack = .finite .positive m e hm) :
    Denotes x (m * 2 ^ e)

section Round

variable {m : Nat} {e : Int} {a : Accuracy} {q : Rat}

theorem denotes_zero (s : Sign) : Denotes ⟨Float.Model.pack (.zero s)⟩ 0 :=
  .zero (unpack_pack_zero s)

theorem denotes_finite (h : 0 < m) (hm : IsCanonical m e) (he : e ≤ 971) :
    Denotes ⟨Float.Model.pack (.finite .positive m e h)⟩ (m * 2 ^ e) :=
  .finite (unpack_pack h hm he)

theorem targetExponent_eq_max (m : Nat) (e : Int) :
    Format.binary64.targetExponent (totalExponent m e) = max (m.log2 + e - 52) (-1074) := by
  simp only [Format.targetExponent, totalExponent, Format.mantissaBits, Format.minExponent]
  omega

/-- Where a mantissa has a number, the exponent aimed at is that of the last bit of the number. -/
theorem targetExponent_eq_lastBit (hpos : 0 < q) (hq : Represents (.ofMantissaAndAccuracy m a) (q / 2 ^ e))
    (he : m = 0 → e ≤ lastBit q) : Format.binary64.targetExponent (totalExponent m e) = lastBit q := by
  obtain ⟨hlow, hhigh⟩ := hq.bounds
  rw [mantissa_ofMantissaAndAccuracy] at hlow hhigh
  rw [targetExponent_eq_max]
  have hle : lastBit q ≤ max (m.log2 + e - 52) (-1074) := by
    refine (lastBit_le_iff hpos).mpr ⟨?_, le_max_right _ _⟩
    have hm : (m + 1 : Rat) ≤ 2 ^ (m.log2 + 1) := by exact_mod_cast Nat.lt_log2_self
    calc q < 2 ^ (m.log2 + 1) * 2 ^ e := (div_lt_iff₀ (by positivity)).mp (hhigh.trans_le hm)
      _ = 2 ^ ((m.log2 + 1 : Nat) + e) := by rw [zpow_add₀ two_ne_zero, zpow_natCast]
      _ ≤ 2 ^ (53 + max (m.log2 + e - 52) (-1074)) := zpow_le_zpow_right₀ one_le_two (by push_cast; omega)
  refine le_antisymm (max_le ?_ (le_lastBit q)) hle
  rcases Nat.eq_zero_or_pos m with rfl | hmpos
  · have he := he rfl
    rw [Nat.log2_zero]
    omega
  · by_contra hlt
    have hbelow := ((lastBit_le_iff hpos).mp (show lastBit q ≤ m.log2 + e - 53 by omega)).1
    have hm : (2 : Rat) ^ m.log2 ≤ m := by exact_mod_cast Nat.log2_self_le hmpos.ne'
    refine absurd hbelow (not_lt.mpr ?_)
    calc (2 : Rat) ^ (53 + (m.log2 + e - 53)) = 2 ^ m.log2 * 2 ^ e := by
          rw [← zpow_natCast, ← zpow_add₀ two_ne_zero, add_sub_cancel]
      _ ≤ q := (le_div_iff₀ (by positivity)).mp (hm.trans hlow)

/-- The first shift of a mantissa leads to the last bit of its number. -/
theorem exists_shiftToTargetExponent (hpos : 0 < q) (hq : Represents (.ofMantissaAndAccuracy m a) (q / 2 ^ e))
    (he : e ≤ lastBit q) : ∃ em, shiftToTargetExponent .binary64 m e a = (em, lastBit q) ∧
      Represents em (q / 2 ^ lastBit q) := by
  obtain ⟨k, hk⟩ := Int.le.dest he
  refine ⟨ExtendedMantissa.ofMantissaAndAccuracy m a >>> k, ?_, ?_⟩
  · rw [shiftToTargetExponent, targetExponent_eq_lastBit hpos hq fun _ => he, shiftToExponent,
      show (lastBit q - e).toNat = k by omega, hk]
  · have hshifted := hq.shiftRight k
    rwa [div_div, ← zpow_natCast, ← zpow_add₀ two_ne_zero, hk] at hshifted

/-- The second shift, once the mantissa is rounded, has nothing to do for a mantissa of 53 bits. -/
theorem shiftToTargetExponent_of_lt (hm : m < 2 ^ 53) (he : -1074 ≤ e) :
    shiftToTargetExponent .binary64 m e .exact = (⟨m, false, false⟩, e) := by
  have hlog : m.log2 ≤ 52 := by
    rcases Nat.eq_zero_or_pos m with rfl | hpos
    · exact Nat.zero_le _
    · exact Nat.le_of_lt_succ ((Nat.log2_lt hpos.ne').mpr hm)
  have hshift : (max ((m.log2 : Int) + e - 52) (-1074) - e).toNat = 0 := by omega
  rw [shiftToTargetExponent, targetExponent_eq_max, shiftToExponent, hshift, Nat.cast_zero, add_zero]
  rfl

/-- If rounding has given the mantissa one bit more, the second shift drops that bit. -/
theorem shiftToTargetExponent_two_pow (he : -1074 ≤ e) :
    shiftToTargetExponent .binary64 (2 ^ 53) e .exact = (⟨2 ^ 52, false, false⟩, e + 1) := by
  have hshift : (max (((2 ^ 53).log2 : Nat) + e - 52) (-1074) - e).toNat = 1 := by
    rw [Nat.log2_two_pow]
    omega
  rw [shiftToTargetExponent, targetExponent_eq_max, shiftToExponent, hshift, Nat.cast_one]
  rfl

/-- What is rounded to a double is rounded to its last bit. -/
theorem denotes_round (hpos : 0 < q) (hhigh : q ≤ 2 ^ (1000 : Int))
    (hq : Represents (.ofMantissaAndAccuracy m a) (q / 2 ^ e)) (he : e ≤ lastBit q) :
    Denotes ⟨Float.Model.pack (roundWithAccuracy .binary64 .positive m e a)⟩ (rounded q) := by
  have hlow := le_lastBit q
  have hlast : lastBit q ≤ 948 :=
    (lastBit_le_iff hpos).mpr ⟨hhigh.trans_lt (zpow_lt_zpow_right₀ one_lt_two (by norm_num)), by norm_num⟩
  obtain ⟨em, hfirst, hscaled⟩ := exists_shiftToTargetExponent hpos hq he
  obtain ⟨-, hrhigh⟩ := nearestEven_scaled_mem_Icc hpos
  have hrlow := le_nearestEven_scaled hpos
  rw [← hscaled.roundedMantissa_eq] at hrlow hrhigh
  rw [rounded, ← hscaled.roundedMantissa_eq, Int.cast_natCast, roundWithAccuracy, hfirst]
  dsimp only
  generalize em.roundedMantissa = r at *
  rcases (show r ≤ 2 ^ 53 by exact_mod_cast hrhigh).lt_or_eq with hlt | rfl
  · rw [shiftToTargetExponent_of_lt hlt hlow]
    dsimp only
    split_ifs with hzero
    · rw [hzero, Nat.cast_zero, zero_mul]
      exact denotes_zero _
    · refine denotes_finite _ ⟨hlt, hlow, ?_⟩ (by omega)
      by_cases hleast : lastBit q = -1074
      · exact .inr hleast
      · exact .inl (by exact_mod_cast hrlow (by omega))
  · have hhalf : ((2 ^ 53 : Nat) : Rat) * 2 ^ lastBit q = (2 ^ 52 : Nat) * 2 ^ (lastBit q + 1) := by
      rw [zpow_add_one₀ two_ne_zero]
      push_cast
      ring
    rw [shiftToTargetExponent_two_pow hlow, hhalf]
    dsimp only
    rw [dif_neg (by decide)]
    exact denotes_finite _ ⟨by decide, by omega, .inl le_rfl⟩ (by omega)

/-- A mantissa is shifted as its exponent is decreased. -/
theorem mul_zpow_eq_shiftLeft {t : Int} {k : Nat} (hk : t + k = e) : (m : Rat) * 2 ^ e = (m <<< k : Nat) * 2 ^ t := by
  rw [← hk, zpow_add₀ two_ne_zero, zpow_natCast, Nat.shiftLeft_eq]
  push_cast
  ring

/-- A number given by its mantissa is rounded to its last bit, however few bits it has. -/
theorem denotes_round_exact (hm : 0 < m) (hhigh : m * 2 ^ e ≤ (2 : Rat) ^ (1000 : Int)) :
    Denotes ⟨Float.Model.pack (UnpackedFloat.round .binary64 .positive m e)⟩ (rounded (m * 2 ^ e)) := by
  have hpos : (0 : Rat) < m * 2 ^ e := by positivity
  have htarget := targetExponent_eq_lastBit hpos (represents_exact m e) fun h => absurd h hm.ne'
  rw [UnpackedFloat.round, htarget, decreaseExponent]
  dsimp only
  obtain ⟨k, hk⟩ : ∃ k : Nat, k = (e - lastBit (m * 2 ^ e)).toNat := ⟨_, rfl⟩
  rw [← hk]
  refine denotes_round hpos hhigh ?_ (by omega)
  rw [mul_zpow_eq_shiftLeft (sub_add_cancel e k)]
  exact represents_exact _ _

end Round

/-! ### Comparisons -/

section Order

variable {x y : Float} {p q : Rat}

theorem Denotes.nonneg (hx : Denotes x p) : 0 ≤ p := by
  cases hx with
  | zero => exact le_rfl
  | finite => positivity

theorem Denotes.isFinite (hx : Denotes x p) : x.isFinite = true := by
  rw [Float.isFinite, Float.Model.isFinite]
  cases hx with
  | zero h => rw [h]; rfl
  | finite h => rw [h]; rfl

/-- What a double stands for has no more bits than the double. -/
theorem Denotes.rounded_eq (hx : Denotes x p) : rounded p = p := by
  cases hx with
  | zero => exact rounded_zero
  | finite h =>
    obtain ⟨hm, he, -⟩ := isCanonical_of_unpack h
    exact rounded_mul_zpow hm he

theorem mul_zpow_lt_mul_zpow {m n : Nat} {e f : Int} (hm : IsCanonical m e) (hn : IsCanonical n f) (hef : e < f) :
    (m : Rat) * 2 ^ e < n * 2 ^ f := by
  have hmhigh : (m : Rat) < 2 ^ (52 + 1) := by exact_mod_cast hm.1
  have hnlow : (2 : Rat) ^ 52 ≤ n := by
    have hleast : ¬f = -1074 := by have := hm.2.1; omega
    exact_mod_cast hn.2.2.resolve_right hleast
  calc (m : Rat) * 2 ^ e < 2 ^ (52 + 1) * 2 ^ e := by gcongr
    _ = 2 ^ 52 * 2 ^ (e + 1) := by rw [pow_succ, zpow_add_one₀ two_ne_zero]; ring
    _ ≤ n * 2 ^ f := by gcongr; exacts [one_le_two, hef]

/-- Numbers that doubles hold are in the order of their exponents, then of their mantissas. -/
theorem compare_then_compare {m n : Nat} {e f : Int} (hm : IsCanonical m e) (hn : IsCanonical n f) :
    (compare e f).then (compare m n) = compare ((m : Rat) * 2 ^ e) (n * 2 ^ f) := by
  rcases lt_trichotomy e f with hef | rfl | hef
  · rw [compare_lt_iff_lt.mpr hef, compare_lt_iff_lt.mpr (mul_zpow_lt_mul_zpow hm hn hef)]
    rfl
  · have hpos : (0 : Rat) < 2 ^ e := by positivity
    rw [compare_eq_iff_eq.mpr rfl, Ordering.eq_then]
    rcases lt_trichotomy m n with hmn | rfl | hmn
    · rw [compare_lt_iff_lt.mpr hmn, compare_lt_iff_lt.mpr (by gcongr)]
    · rw [compare_eq_iff_eq.mpr rfl, compare_eq_iff_eq.mpr rfl]
    · rw [compare_gt_iff_gt.mpr hmn, compare_gt_iff_gt.mpr (by gcongr)]
  · rw [compare_gt_iff_gt.mpr hef, compare_gt_iff_gt.mpr (mul_zpow_lt_mul_zpow hn hm hef)]
    rfl

theorem Denotes.compare_eq (hx : Denotes x p) (hy : Denotes y q) :
    x.toModel.unpack.compare y.toModel.unpack = some (compare p q) := by
  cases hx with
  | zero h =>
    cases hy with
    | zero h' => rw [h, h', compare_eq_iff_eq.mpr rfl]; rfl
    | @finite n f hn h' => rw [h, h', compare_lt_iff_lt.mpr (by positivity)]; rfl
  | @finite m e hm h =>
    cases hy with
    | zero h' => rw [h, h', compare_gt_iff_gt.mpr (by positivity)]; rfl
    | finite h' =>
      rw [h, h', ← compare_then_compare (isCanonical_of_unpack h) (isCanonical_of_unpack h')]
      rfl

theorem lt_iff_lt_unpack : x < y ↔ x.toModel.unpack.lt y.toModel.unpack = true :=
  decide_eq_true_iff

theorem Denotes.lt_iff (hx : Denotes x p) (hy : Denotes y q) : x < y ↔ p < q := by
  rw [lt_iff_lt_unpack, UnpackedFloat.lt, hx.compare_eq hy, ← compare_lt_iff_lt]
  simp

theorem Denotes.le_iff (hx : Denotes x p) (hy : Denotes y q) : x ≤ y ↔ p ≤ q := by
  have hunpack : x ≤ y ↔ x.toModel.unpack.le y.toModel.unpack = true := decide_eq_true_iff
  rw [hunpack, UnpackedFloat.le, hx.compare_eq hy, ← compare_le_iff_le]
  simp [Ordering.isLE_iff_ne_gt]

theorem unpack_ofNat_zero : (Float.ofNat 0).toModel.unpack = .zero .positive :=
  rfl

/-- A double that is some number, not less than 0 and not greater than a bound, stands for a number up to the
bound. -/
theorem exists_denotes_of_not_lt (hnan : x.isNaN = false) (hlow : ¬x < Float.ofNat 0) (hy : Denotes y q)
    (hhigh : ¬y < x) : ∃ p ≤ q, Denotes x p := by
  rw [lt_iff_lt_unpack, unpack_ofNat_zero] at hlow
  cases hx : x.toModel.unpack with
  | notANumber =>
    rw [Float.isNaN, Float.Model.isNaN, hx] at hnan
    contradiction
  | zero s => exact ⟨0, hy.nonneg, .zero hx⟩
  | finite s m e hm =>
    cases s with
    | positive => exact ⟨_, not_lt.mp fun h => hhigh ((hy.lt_iff (.finite hx)).mpr h), .finite hx⟩
    | negative =>
      rw [hx] at hlow
      exact absurd rfl hlow
  | infinity s =>
    cases s with
    | positive =>
      rw [lt_iff_lt_unpack, hx] at hhigh
      cases hy with
      | zero h | finite h =>
        rw [h] at hhigh
        exact absurd rfl hhigh
    | negative =>
      rw [hx] at hlow
      exact absurd rfl hlow

end Order

/-! ### Sums, products and quotients -/

section Arithmetic

variable {x y : Float} {p q : Rat}

theorem Denotes.mul (hx : Denotes x p) (hy : Denotes y q) (hhigh : p * q ≤ 2 ^ (1000 : Int)) :
    Denotes (x * y) (rounded (p * q)) := by
  have hproduct : x * y = ⟨Float.Model.pack (UnpackedFloat.mul .binary64 x.toModel.unpack y.toModel.unpack)⟩ := rfl
  rw [hproduct]
  cases hx with
  | zero h =>
    rw [zero_mul, rounded_zero]
    cases hy with
    | zero h' => rw [h, h']; exact denotes_zero _
    | finite h' => rw [h, h']; exact denotes_zero _
  | @finite m e hm h =>
    cases hy with
    | zero h' =>
      rw [mul_zero, rounded_zero, h, h']
      exact denotes_zero _
    | @finite n f hn h' =>
      have hexact : (m : Rat) * 2 ^ e * (n * 2 ^ f) = (m * n : Nat) * 2 ^ (e + f) := by
        rw [zpow_add₀ two_ne_zero]
        push_cast
        ring
      have hpos : (0 : Rat) < (m * n : Nat) * 2 ^ (e + f) := by positivity
      rw [hexact] at hhigh ⊢
      rw [h, h']
      refine denotes_round hpos hhigh (represents_exact _ _) ?_
      -- if no bit is dropped, the product has few bits, so both factors have
      by_contra hlt
      obtain ⟨hbelow, hleast⟩ := (lastBit_le_iff hpos).mp (show lastBit _ ≤ e + f - 1 by omega)
      have hfew : m * n < 2 ^ 52 := by
        rw [show 53 + (e + f - 1) = (52 : Nat) + (e + f) by omega, zpow_add₀ two_ne_zero (52 : Nat)] at hbelow
        exact_mod_cast lt_of_mul_lt_mul_right hbelow (by positivity)
      have hme := (isCanonical_of_unpack h).2.2.resolve_left fun hm52 =>
        absurd hfew (not_lt.mpr (hm52.trans (Nat.le_mul_of_pos_right m hn)))
      have hnf := (isCanonical_of_unpack h').2.2.resolve_left fun hn52 =>
        absurd hfew (not_lt.mpr (hn52.trans (Nat.le_mul_of_pos_left n hm)))
      omega

theorem Denotes.div (hx : Denotes x p) (hy : Denotes y q) (hq : 0 < q) (hhigh : p / q ≤ 2 ^ (1000 : Int)) :
    Denotes (x / y) (rounded (p / q)) := by
  have hquotient : x / y = ⟨Float.Model.pack (UnpackedFloat.div .binary64 x.toModel.unpack y.toModel.unpack)⟩ := rfl
  rw [hquotient]
  cases hy with
  | zero => exact absurd hq (lt_irrefl 0)
  | @finite n f hn h' =>
    cases hx with
    | zero h =>
      rw [zero_div, rounded_zero, h, h']
      exact denotes_zero _
    | @finite m e hm h =>
      have hpos : (0 : Rat) < m * 2 ^ e / (n * 2 ^ f) := by positivity
      rw [h, h']
      simp only [UnpackedFloat.div, divCore]
      obtain ⟨t, ht⟩ : ∃ t, t = min (e - f)
          (Format.binary64.targetExponent (totalExponent m e - totalExponent n f)) := ⟨_, rfl⟩
      rw [← ht]
      obtain ⟨k, hk⟩ := Int.le.dest (show t ≤ e - f by omega)
      rw [show (e - f - t).toNat = k by omega]
      refine denotes_round hpos hhigh ?_ ?_
      · have hexact : (m : Rat) * 2 ^ e / (n * 2 ^ f) / 2 ^ t = (m <<< k : Nat) / n := by
          rw [Nat.shiftLeft_eq]
          push_cast
          rw [← zpow_natCast, show (k : Int) = e - f - t by omega, zpow_sub₀ two_ne_zero, zpow_sub₀ two_ne_zero]
          field_simp
        rw [hexact]
        exact represents_div _ hn
      · by_contra hlt
        obtain ⟨hbelow, hleast⟩ := (lastBit_le_iff hpos).mp (show lastBit _ ≤ t - 1 by omega)
        have hlow : (2 : Rat) ^ m.log2 ≤ m := by exact_mod_cast Nat.log2_self_le hm.ne'
        have hhigh : (n : Rat) ≤ 2 ^ (n.log2 + 1) := by exact_mod_cast Nat.lt_log2_self.le
        simp only [Format.targetExponent, totalExponent, Format.mantissaBits, Format.minExponent] at ht
        refine absurd hbelow (not_lt.mpr ?_)
        calc (2 : Rat) ^ (53 + (t - 1)) ≤ 2 ^ ((m.log2 : Int) + e - ((n.log2 + 1 : Nat) + f)) :=
              zpow_le_zpow_right₀ one_le_two (by omega)
          _ = 2 ^ m.log2 * 2 ^ e / (2 ^ (n.log2 + 1) * 2 ^ f) := by
              rw [zpow_sub₀ two_ne_zero, zpow_add₀ two_ne_zero, zpow_add₀ two_ne_zero, zpow_natCast, zpow_natCast]
          _ ≤ m * 2 ^ e / (n * 2 ^ f) := by gcongr

theorem Denotes.add (hx : Denotes x p) (hy : Denotes y q) (hhigh : p + q ≤ 2 ^ (1000 : Int)) :
    Denotes (x + y) (rounded (p + q)) := by
  have hsum : x + y = ⟨Float.Model.pack (UnpackedFloat.add .binary64 x.toModel.unpack y.toModel.unpack)⟩ := rfl
  rw [hsum]
  cases hx with
  | zero h =>
    cases hy with
    | @zero s' h' =>
      rw [h, h', add_zero, rounded_zero, UnpackedFloat.add]
      split_ifs
      · exact denotes_zero _
      · exact denotes_zero _
    | finite h' =>
      rw [zero_add, (Denotes.finite h').rounded_eq, h, h']
      change Denotes ⟨Float.Model.pack (.finite ..)⟩ _
      rw [← h', pack_unpack_model]
      exact .finite h'
  | @finite m e hm h =>
    cases hy with
    | zero h' =>
      rw [add_zero, (Denotes.finite h).rounded_eq, h, h']
      change Denotes ⟨Float.Model.pack (.finite ..)⟩ _
      rw [← h, pack_unpack_model]
      exact .finite h
    | @finite n f hn h' =>
      -- with the lesser exponent, both are integers, and their sum is exact before it is rounded
      obtain ⟨j, hj⟩ := Int.le.dest (min_le_left e f)
      obtain ⟨k, hk⟩ := Int.le.dest (min_le_right e f)
      have hpos : 0 < m <<< j + n <<< k := by
        rw [Nat.shiftLeft_eq]
        positivity
      have hexact : (m : Rat) * 2 ^ e + n * 2 ^ f = (m <<< j + n <<< k : Nat) * 2 ^ min e f := by
        rw [mul_zpow_eq_shiftLeft hj, mul_zpow_eq_shiftLeft hk, Nat.cast_add, add_mul]
      have hround : UnpackedFloat.add .binary64 (.finite .positive m e hm) (.finite .positive n f hn) =
          UnpackedFloat.round .binary64 .positive (m <<< j + n <<< k) (min e f) := by
        simp only [UnpackedFloat.add, decreaseExponent, Sign.apply, show (e - min e f).toNat = j by omega,
          show (f - min e f).toNat = k by omega, UnpackedFloat.normalize]
        rw [← Nat.cast_add, Int.compare_eq_gt.mpr (by exact_mod_cast hpos)]
        rfl
      rw [hexact] at hhigh ⊢
      rw [h, h', hround]
      exact denotes_round_exact hpos hhigh

end Arithmetic

/-! ### Natural numbers -/

section Nat

variable {n : Nat}

theorem natCast_le_zpow (hn : n < Word.size) : (n : Rat) ≤ 2 ^ (64 : Int) := by
  exact_mod_cast hn.le

/-- A word of 53 bits is a double as it is. -/
theorem denotes_toFloat (hn : n < 2 ^ 53) : Denotes n.toUInt64.toFloat n := by
  have hword : n.toUInt64.toNat = n := UInt64.toNat_ofNat_of_lt' (hn.trans (by decide))
  change Denotes ⟨Float.Model.pack (UnpackedFloat.ofUInt64 .binary64 n.toUInt64)⟩ _
  rw [UnpackedFloat.ofUInt64, UnpackedFloat.ofNat, UnpackedFloat.ofInt, UnpackedFloat.normalize, hword]
  rcases Nat.eq_zero_or_pos n with rfl | hpos
  · rw [Nat.cast_zero]
    exact denotes_zero _
  · have hexact : (n : Rat) * 2 ^ (0 : Int) = n := by rw [zpow_zero, mul_one]
    have hhigh : (n : Rat) * 2 ^ (0 : Int) ≤ 2 ^ (1000 : Int) := by
      rw [hexact]
      exact (natCast_le_zpow (hn.trans (by decide))).trans (zpow_le_zpow_right₀ one_le_two (by norm_num))
    rw [Int.compare_eq_gt.mpr (by exact_mod_cast hpos), ← rounded_natCast hn, ← hexact]
    exact denotes_round_exact hpos hhigh

/-- The double of a natural number is the number rounded. -/
theorem denotes_ofNat (hn : n < Word.size) : Denotes (Float.ofNat n) (rounded n) := by
  have hhigh : (n : Rat) ≤ 2 ^ (1000 : Int) :=
    (natCast_le_zpow hn).trans (zpow_le_zpow_right₀ one_le_two (by norm_num))
  rw [Float.ofNat]
  change Denotes (Float.ofScientific n false 0) _
  by_cases hsmall : n < 2 ^ 53
  · -- the number is a double, which is multiplied by the power of ten that is 1
    have hone : Denotes (Float.ofBits 4607182418800017408) 1 := by
      have hbits : (Float.ofBits 4607182418800017408).toModel.unpack =
          .finite .positive (2 ^ 52) (-52) (by norm_num) := rfl
      have hexact : ((2 ^ 52 : Nat) : Rat) * 2 ^ (-52 : Int) = 1 := by norm_num
      exact hexact ▸ Denotes.finite hbits
    rw [Float.ofScientific, dif_pos ⟨hsmall, by decide⟩, ← mul_one (n : Rat)]
    exact (denotes_toFloat hsmall).mul hone (by rwa [mul_one])
  · have hpos : 0 < n := by omega
    have hround : Float.ofScientific n false 0 =
        ⟨Float.Model.pack (roundWithAccuracy .binary64 .positive (n <<< 53) (-(53 : Nat)) .exact)⟩ := by
      have hbits : Format.binary64.mantissaBits = 53 := rfl
      have hsign : Sign.positive * Sign.positive = Sign.positive := rfl
      have hexponent : ¬(0 : Int) < -(2 ^ Format.binary64.exponentBits + n.log2) :=
        not_lt.mpr (neg_nonpos.mpr (by positivity))
      rw [Float.ofScientific, dif_neg fun h => hsmall h.1]
      change (⟨Float.Model.pack (UnpackedFloat.ofScientific .binary64 n 0)⟩ : Float) = _
      rw [UnpackedFloat.ofScientific, dif_neg hpos.ne', if_neg (by decide), if_neg hexponent, if_pos le_rfl]
      simp only [UnpackedFloat.mul, Int.toNat_zero, pow_zero, mul_one, add_zero, hbits, hsign]
    have hexact : (n : Rat) = (n <<< 53 : Nat) * 2 ^ (-(53 : Nat) : Int) := by
      rw [← mul_zpow_eq_shiftLeft (neg_add_cancel _), zpow_zero, mul_one]
    have hlast : (-(53 : Nat) : Int) ≤ lastBit n := by
      have hlog : 0 ≤ Int.log 2 (n : Rat) := by
        rw [Int.log_natCast]
        exact Int.natCast_nonneg _
      rw [lastBit]
      omega
    rw [hround]
    refine denotes_round (by exact_mod_cast hpos) hhigh ?_ hlast
    rw [hexact]
    exact represents_exact _ _

/-- A number of 53 bits is kept. -/
theorem denotes_ofNat_of_lt (hn : n < 2 ^ 53) : Denotes (Float.ofNat n) n := by
  have hrounded := denotes_ofNat (hn.trans (by decide))
  rwa [rounded_natCast hn] at hrounded

/-- A share of a number, in percent, is positive and a hundred at most, in spite of three roundings. -/
theorem percent_pos_and_le {total : Nat} (hpos : 0 < n) (hle : n ≤ total) (htotal : total < Word.size) :
    0 < Float.ofNat n / Float.ofNat total * Float.ofNat 100 ∧
      Float.ofNat n / Float.ofNat total * Float.ofNat 100 ≤ 100 := by
  have hhundred : Denotes (Float.ofNat 100) 100 := denotes_ofNat_of_lt (by norm_num)
  have hpart : 1 ≤ rounded n := one_le_rounded (by exact_mod_cast hpos)
  have hparts : rounded n ≤ rounded total := rounded_mono (by positivity) (by exact_mod_cast hle)
  have hwhole : rounded total ≤ 2 ^ (64 : Int) :=
    rounded_le_zpow (by norm_num) (by positivity) (natCast_le_zpow htotal)
  have hwholepos : 0 < rounded total := one_pos.trans_le (hpart.trans hparts)
  have hshare : rounded n / rounded total ∈ Set.Icc (2 ^ (-64 : Int)) 1 := by
    refine ⟨(le_div_iff₀ hwholepos).mpr ?_, (div_le_one hwholepos).mpr hparts⟩
    calc 2 ^ (-64 : Int) * rounded total ≤ 2 ^ (-64 : Int) * 2 ^ (64 : Int) := by gcongr
      _ = 1 := by norm_num
      _ ≤ rounded n := hpart
  obtain ⟨hlow, hhigh⟩ := rounded_mem_Icc (by positivity) (rounded_zpow (by norm_num)) rounded_one hshare
  have hpercent : rounded (rounded n / rounded total) * 100 ∈ Set.Icc (2 ^ (-64 : Int)) 100 := by
    have hsharepos : (0 : Rat) < 2 ^ (-64 : Int) := by positivity
    exact ⟨by linarith, by linarith⟩
  have hfew : ∀ {q : Rat}, q ≤ 100 → q ≤ 2 ^ (1000 : Int) := fun h =>
    (h.trans (by norm_num : (100 : Rat) ≤ 2 ^ (7 : Int))).trans (zpow_le_zpow_right₀ one_le_two (by norm_num))
  have hdouble := ((denotes_ofNat (hle.trans_lt htotal)).div (denotes_ofNat htotal) hwholepos
    (hfew (hshare.2.trans (by norm_num)))).mul hhundred (hfew hpercent.2)
  obtain ⟨hlow, hhigh⟩ := rounded_mem_Icc (by positivity) (rounded_zpow (by norm_num)) hhundred.rounded_eq hpercent
  have hpositive : (0 : Rat) < 2 ^ (-64 : Int) := by positivity
  have hzero : Denotes (Float.ofNat 0) 0 := .zero unpack_ofNat_zero
  exact ⟨(hzero.lt_iff hdouble).mpr (hpositive.trans_le hlow), (hdouble.le_iff hhundred).mpr hhigh⟩

end Nat

end Checkup.Number
