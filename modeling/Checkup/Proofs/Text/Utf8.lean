import Checkup.Proofs.Text.Octets
import Mathlib.Algebra.Order.Ring.Nat

/-!
# Octets as text

The octets of a text are read as this text (`decode_octets`), so `ofBytes?` finds the text that some octets are
the encoding of, if there is one (`ofBytes?_eq_some_iff`). Octets that are no text may be read as one all the same;
a character below 128 is still one of the octets, so none is invented (`exists_mem_of_mem_decode`).
-/

namespace Checkup.Text

/-! ### The octets of one character -/

section Character

variable {v : Nat}

theorem toNat_ofNat_of_lt {n : Nat} (h : n < 256) : (UInt8.ofNat n).toNat = n := by
  rw [UInt8.toNat_ofNat']
  exact Nat.mod_eq_of_lt h

theorem continued_ofNat_cons (bits more : Nat) {rest : List UInt8} {n : Nat} (h : n < 64) :
    continued bits (more + 1) (UInt8.ofNat (n + 128) :: rest) = continued (bits * 64 + n) more rest := by
  have hn : (UInt8.ofNat (n + 128)).toNat = n + 128 := toNat_ofNat_of_lt (by omega)
  have hcontinues : isContinuation (UInt8.ofNat (n + 128)) = true := by
    rw [isContinuation, inRange, hn, Bool.and_eq_true, decide_eq_true_iff, decide_eq_true_iff]
    omega
  have hbits : (n + 128) % 64 = n := by omega
  rw [continued, if_pos hcontinues, hn, hbits]

/-- After an octet that begins a character and a second one in the range for it, the character goes on. -/
theorem decodeFrom_of_leading? {b : UInt8} {bits low high more n : Nat} (fuel : Nat) (rest : List UInt8)
    (hb : leading? b = some (bits, low, high, more)) (hlow : low ≤ n + 128) (hhigh : n + 128 ≤ high)
    (hn : n < 64) :
    decodeFrom (fuel + 1) (b :: UInt8.ofNat (n + 128) :: rest) =
      (continued (bits * 64 + n) more rest).1 :: decodeFrom fuel (continued (bits * 64 + n) more rest).2 := by
  have hnat : (UInt8.ofNat (n + 128)).toNat = n + 128 := toNat_ofNat_of_lt (by omega)
  have hrange : inRange low high (UInt8.ofNat (n + 128)) = true := by
    rw [inRange, hnat, decide_eq_true hlow, decide_eq_true hhigh]
    rfl
  have hlarge : ¬b.toNat < 0x80 := by
    intro hsmall
    rw [leading?] at hb
    split_ifs at hb <;> grind
  have hbits : (n + 128) % 64 = n := by omega
  rw [decodeFrom, if_neg hlarge, hb]
  simp only [hrange, if_true, hnat, hbits]

theorem leading?_two (hlow : 127 < v) (hhigh : v ≤ 2047) :
    leading? (UInt8.ofNat (v / 64 % 32 + 192)) = some (v / 64, 0x80, 0xBF, 0) := by
  have hn : (UInt8.ofNat (v / 64 % 32 + 192)).toNat = v / 64 + 192 := by
    rw [toNat_ofNat_of_lt] <;> omega
  grind [leading?]

/-- The second octet of three is in a range that leaves out what two octets are for, and what is no character. -/
theorem leading?_three (hlow : 2047 < v) (hhigh : v ≤ 65535) (hvalid : v.isValidChar) :
    ∃ low high, leading? (UInt8.ofNat (v / 4096 % 16 + 224)) = some (v / 4096, low, high, 1) ∧
      low ≤ v / 64 % 64 + 128 ∧ v / 64 % 64 + 128 ≤ high := by
  have hn : (UInt8.ofNat (v / 4096 % 16 + 224)).toNat = v / 4096 + 224 := by
    rw [toNat_ofNat_of_lt] <;> omega
  obtain h | h | ⟨h, h'⟩ : v / 4096 = 0 ∨ v / 4096 = 13 ∨ v / 4096 ≠ 0 ∧ v / 4096 ≠ 13 := by omega
  · exact ⟨0xA0, 0xBF, by grind [leading?], by omega, by omega⟩
  · have hsurrogate : v < 0xD800 := by rcases hvalid with hvalid | hvalid <;> omega
    exact ⟨0x80, 0x9F, by grind [leading?], by omega, by omega⟩
  · exact ⟨0x80, 0xBF, by grind [leading?], by omega, by omega⟩

/-- The second octet of four is in a range that leaves out what three octets are for, and what is no character. -/
theorem leading?_four (hlow : 65535 < v) (hvalid : v.isValidChar) :
    ∃ low high, leading? (UInt8.ofNat (v / 262144 % 8 + 240)) = some (v / 262144, low, high, 2) ∧
      low ≤ v / 4096 % 64 + 128 ∧ v / 4096 % 64 + 128 ≤ high := by
  have hhigh : v < 0x110000 := by rcases hvalid with hvalid | hvalid <;> omega
  have hn : (UInt8.ofNat (v / 262144 % 8 + 240)).toNat = v / 262144 + 240 := by
    rw [toNat_ofNat_of_lt] <;> omega
  obtain h | h | ⟨h, h'⟩ : v / 262144 = 0 ∨ v / 262144 = 4 ∨ v / 262144 ≠ 0 ∧ v / 262144 ≠ 4 := by omega
  · exact ⟨0x90, 0xBF, by grind [leading?], by omega, by omega⟩
  · exact ⟨0x80, 0x8F, by grind [leading?], by omega, by omega⟩
  · exact ⟨0x80, 0xBF, by grind [leading?], by omega, by omega⟩

/-- The octets of a character are read as this character. -/
theorem decodeFrom_utf8EncodeChar (c : Char) (fuel : Nat) (rest : List UInt8) :
    decodeFrom (fuel + 1) (String.utf8EncodeChar c ++ rest) = c :: decodeFrom fuel rest := by
  have hvalid : c.toNat.isValidChar := c.valid
  have hchar : Char.ofNat c.toNat = c := Char.ofNat_toNat c
  fun_cases String.utf8EncodeChar c with
  | case1 v hone =>
    have hn : (UInt8.ofNat v).toNat = v := toNat_ofNat_of_lt (Nat.lt_of_le_of_lt hone (by decide))
    rw [List.singleton_append, decodeFrom, hn, if_pos (Nat.lt_succ_of_le hone)]
    exact congrArg (· :: _) hchar
  | case2 v hone htwo =>
    have hbits : v / 64 * 64 + v % 64 = v := by omega
    have hread := decodeFrom_of_leading? fuel rest
      (leading?_two (Nat.lt_of_not_le hone) htwo) (Nat.le_add_left ..) (by omega) (Nat.mod_lt v (by decide))
    rw [hbits, continued] at hread
    exact hread.trans (congrArg (· :: _) hchar)
  | case3 v hone htwo hthree =>
    have hbits : (v / 4096 * 64 + v / 64 % 64) * 64 + v % 64 = v := by omega
    obtain ⟨low, high, hleading, hlow, hhigh⟩ := leading?_three (Nat.lt_of_not_le htwo) hthree hvalid
    have hread := decodeFrom_of_leading? fuel (UInt8.ofNat (v % 64 + 128) :: rest) hleading hlow hhigh
      (Nat.mod_lt _ (by decide))
    rw [continued_ofNat_cons _ _ (Nat.mod_lt v (by decide)), hbits, continued] at hread
    exact hread.trans (congrArg (· :: _) hchar)
  | case4 v hone htwo hthree =>
    have hbits : ((v / 262144 * 64 + v / 4096 % 64) * 64 + v / 64 % 64) * 64 + v % 64 = v := by omega
    obtain ⟨low, high, hleading, hlow, hhigh⟩ := leading?_four (Nat.lt_of_not_le hthree) hvalid
    have hread := decodeFrom_of_leading? fuel
      (UInt8.ofNat (v / 64 % 64 + 128) :: UInt8.ofNat (v % 64 + 128) :: rest) hleading hlow hhigh
      (Nat.mod_lt _ (by decide))
    rw [continued_ofNat_cons _ _ (Nat.mod_lt _ (by decide)), continued_ofNat_cons _ _ (Nat.mod_lt v (by decide)),
      hbits, continued] at hread
    exact hread.trans (congrArg (· :: _) hchar)

end Character

/-! ### Texts -/

theorem decodeFrom_octets (cs : List Char) {fuel : Nat} (hfuel : cs.length ≤ fuel) :
    decodeFrom fuel (octets cs) = cs := by
  induction cs generalizing fuel with
  | nil => cases fuel <;> rfl
  | cons c cs ih =>
    obtain ⟨fuel, rfl⟩ := Nat.exists_eq_add_one_of_ne_zero (Nat.ne_zero_of_lt hfuel)
    rw [octets_cons, decodeFrom_utf8EncodeChar, ih (Nat.le_of_succ_le_succ hfuel)]

/-- **The octets of a text are read as this text.** -/
theorem decode_octets (cs : List Char) : decode (octets cs) = cs := by
  have hle : cs.length ≤ (octets cs).length := by
    induction cs with
    | nil => exact Nat.le_refl 0
    | cons c cs ih =>
      have hpos := List.length_pos_iff.mpr (String.utf8EncodeChar_ne_nil (c := c))
      rw [octets_cons, List.length_append, List.length_cons]
      omega
  exact decodeFrom_octets cs hle

theorem ofBytes?_eq_some_iff {bytes : List UInt8} {text : String} :
    ofBytes? bytes = some text ↔ octets text.toList = bytes := by
  rw [ofBytes?, Option.ite_none_right_eq_some, Option.some.injEq]
  constructor
  · rintro ⟨hbytes, rfl⟩
    rw [String.toList_ofList]
    exact hbytes
  · rintro rfl
    rw [decode_octets]
    exact ⟨rfl, String.ofList_toList⟩

/-! ### Other octets -/

theorem toNat_ofNat_of_isValidChar {n : Nat} (h : n.isValidChar) : (Char.ofNat n).toNat = n := by
  rw [Char.ofNat, dif_pos h]
  exact UInt32.toNat_ofNatLT ..

theorem toNat_ofNat_eq_or (n : Nat) : (Char.ofNat n).toNat = n ∨ (Char.ofNat n).toNat = 0 := by
  by_cases hvalid : n.isValidChar
  · exact .inl (toNat_ofNat_of_isValidChar hvalid)
  · rw [Char.ofNat, dif_neg hvalid]
    exact .inr rfl

/-- What goes on in continuation octets is no character below 128, if it is one at all. -/
theorem continued_fst (bits more : Nat) (bytes : List UInt8) (h : 128 ≤ bits * 64 ^ more) :
    (continued bits more bytes).1.toNat = 0 ∨ 128 ≤ (continued bits more bytes).1.toNat := by
  have hreplacement : 128 ≤ replacement.toNat := by decide
  fun_induction continued bits more bytes with
  | case1 bits bytes =>
    rw [Nat.pow_zero, Nat.mul_one] at h
    rcases toNat_ofNat_eq_or bits with heq | heq
    · exact .inr (heq.symm ▸ h)
    · exact .inl heq
  | case2 | case4 => exact .inr hreplacement
  | case3 bits more b rest hcontinues ih =>
    refine ih (Nat.le_trans h ?_)
    rw [Nat.pow_succ', ← Nat.mul_assoc]
    exact Nat.mul_le_mul_right _ (Nat.le_add_right _ _)

theorem continued_snd_subset (bits more : Nat) (bytes : List UInt8) : (continued bits more bytes).2 ⊆ bytes := by
  fun_induction continued bits more bytes with
  | case1 | case2 | case4 => exact List.Subset.refl _
  | case3 bits more b rest hcontinues ih => exact List.subset_cons_of_subset b ih

/-- The first two octets of a character of several give more bits than a character below 128 has. -/
theorem le_of_leading? {b second : UInt8} {bits low high more : Nat}
    (hb : leading? b = some (bits, low, high, more)) (hsecond : inRange low high second = true) :
    128 ≤ (bits * 64 + second.toNat % 64) * 64 ^ more := by
  rw [inRange, Bool.and_eq_true, decide_eq_true_iff, decide_eq_true_iff] at hsecond
  simp only [leading?, Bool.and_eq_true, decide_eq_true_iff] at hb
  split_ifs at hb <;> simp only [Option.some.injEq, Prod.mk.injEq] at hb <;> obtain ⟨rfl, rfl, rfl, rfl⟩ := hb <;>
    omega

/-- A character below 128 that is read, other than the null character, is one of the octets. -/
theorem exists_mem_of_mem_decode {bytes : List UInt8} {c : Char} (hc : c ∈ decode bytes) (hpos : 0 < c.toNat)
    (hlt : c.toNat < 128) : ∃ b ∈ bytes, b.toNat = c.toNat := by
  have hreplacement : c ≠ replacement := by
    rintro rfl
    exact absurd hlt (by decide)
  rw [decode] at hc
  generalize bytes.length = fuel at hc
  -- what is read after the first character is read from some of the octets
  have hlater {after bytes : List UInt8} (hsub : after ⊆ bytes) :
      (∃ b ∈ after, b.toNat = c.toNat) → ∃ b ∈ bytes, b.toNat = c.toNat := fun ⟨b, hb, heq⟩ => ⟨b, hsub hb, heq⟩
  fun_induction decodeFrom fuel bytes with
  | case1 | case2 => contradiction
  | case3 fuel b rest hsmall ih =>
    rcases List.mem_cons.mp hc with rfl | hc
    · rcases toNat_ofNat_eq_or b.toNat with heq | heq
      · exact ⟨b, List.mem_cons_self, heq.symm⟩
      · omega
    · exact hlater (List.subset_cons_self b rest) (ih hc)
  | case4 fuel b rest hlarge hnone ih =>
    rcases List.mem_cons.mp hc with rfl | hc
    · contradiction
    · exact hlater (List.subset_cons_self b rest) (ih hc)
  | case5 => exact absurd (List.mem_singleton.mp hc) hreplacement
  | case6 fuel b hlarge bits low high more hleading second after hrange d after' heq ih =>
    have hread := continued_fst _ more after (le_of_leading? hleading hrange)
    have hafter := continued_snd_subset (bits * 64 + second.toNat % 64) more after
    simp only [heq] at hread hafter
    rcases List.mem_cons.mp hc with rfl | hc
    · omega
    · exact hlater (List.subset_cons_of_subset b (List.subset_cons_of_subset second hafter)) (ih hc)
  | case7 fuel b hlarge bits low high more hleading second after hrange ih =>
    rcases List.mem_cons.mp hc with rfl | hc
    · contradiction
    · exact hlater (List.subset_cons_self b _) (ih hc)

end Checkup.Text
