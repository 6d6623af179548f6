import Checkup.Json.Printer
import Checkup.Json.Reader
import Mathlib.Data.List.TakeWhile
import Mathlib.Data.Option.Basic

/-!
# Strings and numerals are read back

The leaves of a JSON text, each with any text after it:

* **Strings** — every character is written so that it is read as its code point
  (`readUnits_escapeChar_append`). Code points of characters are no halves of surrogate pairs, so they are
  joined to the same characters again (`joinUnits_map_toNat`).
* **Numerals** — a numeral made of digits (`HasDigits`) is read as it is, up to a character that it cannot go on
  with (`EndsNumeral`); it is refused only if its whole part starts with an idle zero
  (`readNumeral_text_append`). What is written for natural numbers and for doubles is made of digits.
-/

namespace Checkup.Numeral

/-! ### The digits of a number -/

theorem digitsValue_toDigits (n : Nat) : digitsValue 0 (Nat.toDigits 10 n) = n :=
  Nat.ofDigitChars_toDigits (by decide) (by decide)

theorem nat?_ofNat {n limit : Nat} (h : n < limit) : (ofNat n).nat? limit = some n := by
  rw [nat?, ofNat]
  simp [digitsValue_toDigits, h]

theorem isDigit_of_mem_toDigits (n : Nat) : ∀ c ∈ Nat.toDigits 10 n, c.isDigit = true :=
  fun _ hc => Nat.isDigit_of_mem_toDigits (by decide) (by decide) hc

/-- No digits of a number start with a zero, except for the number zero. -/
theorem isWhole_toDigits (n : Nat) : Json.isWhole (Nat.toDigits 10 n) = true := by
  have hdigit : ∀ n < 10, 0 < n → n.digitChar ≠ '0' := by decide
  have hhead : ∀ n > 0, ∃ c cs, Nat.toDigits 10 n = c :: cs ∧ c ≠ '0' := by
    intro n
    induction n using Nat.strong_induction_on with
    | _ n ih =>
      intro hpos
      by_cases hn : n < 10
      · exact ⟨n.digitChar, [], Nat.toDigits_of_lt_base hn, hdigit n hn hpos⟩
      · obtain ⟨c, cs, hcs, hc⟩ := ih (n / 10) (by omega) (by omega)
        rw [Nat.toDigits_of_base_le (by decide) (by omega), hcs]
        exact ⟨c, _, rfl, hc⟩
  rcases Nat.eq_zero_or_pos n with rfl | hpos
  · rfl
  · obtain ⟨c, cs, hcs, hc⟩ := hhead n hpos
    rw [hcs]
    simp [Json.isWhole, hc]

end Checkup.Numeral

namespace Checkup.Json

/-! ### Strings -/

section Strings

variable {c : Char} {cs rest : List Char} {units : List Nat}

theorem readUnits_letter {letter : Char} (hu : letter ≠ 'u') (hletter : escaped? letter = some c)
    (h : readUnits cs = some (units, rest)) :
    readUnits ('\\' :: letter :: cs) = some (c.toNat :: units, rest) := by
  rw [readUnits.eq_4 _ _ fun _ _ _ _ _ heq _ => hu heq, hletter, h]
  rfl

theorem readUnits_plain (hquote : c ≠ '"') (hslash : c ≠ '\\') (hprints : 32 ≤ c.toNat)
    (h : readUnits cs = some (units, rest)) : readUnits (c :: cs) = some (c.toNat :: units, rest) := by
  have hguard : (decide (32 ≤ c.toNat) && decide (c ≠ '\\')) = true := by simp [hprints, hslash]
  rw [readUnits.eq_5 _ _ hquote (fun _ _ _ _ _ heq _ => hslash heq) fun _ _ heq _ => hslash heq,
    hguard, h]
  rfl

theorem hexValue?_digitChar : ∀ n < 16, hexValue? (Nat.digitChar n) = some n := by decide

theorem readUnits_hexByte {n : Nat} (hn : n < 32) (h : readUnits cs = some (units, rest)) :
    readUnits (['\\', 'u', '0', '0'] ++ hexByte n ++ cs) = some (n :: units, rest) := by
  have hzero : hexValue? '0' = some 0 := rfl
  have hhigh := hexValue?_digitChar (n / 16) (by omega)
  have hlow := hexValue?_digitChar (n % 16) (by omega)
  have hunit : 4096 * 0 + 256 * 0 + 16 * (n / 16) + n % 16 = n := by omega
  change readUnits ('\\' :: 'u' :: '0' :: '0' :: (n / 16).digitChar :: (n % 16).digitChar :: cs) = _
  rw [readUnits.eq_3, hzero, hhigh, hlow, h]
  exact congrArg (fun unit => some (unit :: units, rest)) hunit

/-- An escaped character is read as its code point. -/
theorem readUnits_escapeChar_append (h : readUnits cs = some (units, rest)) :
    readUnits (escapeChar c ++ cs) = some (c.toNat :: units, rest) := by
  have hof : ∀ n, c.toNat = n → Char.ofNat n = c := fun n hn => hn ▸ c.ofNat_toNat
  rw [escapeChar]
  -- seven characters have a letter of their own, other control characters their number, the rest themselves
  split_ifs with hquote hslash hfeed hreturn htab hback hform hcontrol
  · exact readUnits_letter (by decide) (congrArg some hquote.symm) h
  · exact readUnits_letter (by decide) (congrArg some hslash.symm) h
  · exact readUnits_letter (by decide) (congrArg some hfeed.symm) h
  · exact readUnits_letter (by decide) (congrArg some hreturn.symm) h
  · exact readUnits_letter (by decide) (congrArg some htab.symm) h
  · exact readUnits_letter (by decide) (congrArg some (hof 8 hback)) h
  · exact readUnits_letter (by decide) (congrArg some (hof 12 hform)) h
  · exact readUnits_hexByte hcontrol h
  · exact readUnits_plain hquote hslash (Nat.le_of_not_lt hcontrol) h

theorem readUnits_flatMap_escapeChar (cs rest : List Char) :
    readUnits (cs.flatMap escapeChar ++ '"' :: rest) = some (cs.map Char.toNat, rest) := by
  induction cs with
  | nil => rfl
  | cons c cs ih =>
    rw [List.flatMap_cons, List.append_assoc, List.map_cons]
    exact readUnits_escapeChar_append ih

/-- A character is no half of a surrogate pair. -/
theorem not_surrogate (c : Char) : ¬(0xD800 ≤ c.toNat ∧ c.toNat < 0xE000) := by
  have hvalid : c.toNat < 0xD800 ∨ 0xDFFF < c.toNat ∧ c.toNat < 0x110000 := c.valid
  omega

theorem joinUnits_map_toNat (cs : List Char) : joinUnits (cs.map Char.toNat) = some cs := by
  induction cs with
  | nil => rfl
  | cons c rest ih =>
    have hc := not_surrogate c
    cases rest with
    | nil =>
      rw [List.map_cons, List.map_nil, joinUnits.eq_3, if_neg (by simpa using hc), c.ofNat_toNat]
    | cons d rest =>
      -- the first is no high half, so the second is not looked at together with it
      rw [List.map_cons, List.map_cons, joinUnits.eq_2, if_neg (by simp; omega), if_neg (by simpa using hc),
        ← List.map_cons, ih, c.ofNat_toNat]
      rfl

/-- A string is read back from what is written for it after its opening quote. -/
theorem readString_flatMap_escapeChar (s : String) (rest : List Char) :
    readString (s.toList.flatMap escapeChar ++ '"' :: rest) = some (some s, rest) := by
  rw [readString, readUnits_flatMap_escapeChar]
  simp [joinUnits_map_toNat]

end Strings

/-! ### Numerals -/

/-- A character that no numeral goes on with. -/
def IsOutside (c : Char) : Prop :=
  c.isDigit = false ∧ c ≠ '.' ∧ c ≠ 'e' ∧ c ≠ 'E'

instance (c : Char) : Decidable (IsOutside c) :=
  inferInstanceAs (Decidable (_ ∧ _))

/-- A text that no numeral goes on with. -/
def EndsNumeral (rest : List Char) : Prop :=
  ∀ c, rest.head? = some c → IsOutside c

/-- The parts of a numeral are digits; there is one before the point, and one in the exponent. -/
structure HasDigits (x : Numeral) : Prop where
  whole_ne_nil : x.whole ≠ []
  isDigit_whole : ∀ c ∈ x.whole, c.isDigit = true
  isDigit_fraction : ∀ c ∈ x.fraction, c.isDigit = true
  exponent_ne_nil : ∀ negative, x.exponent ≠ some (negative, [])
  isDigit_exponent : ∀ e ∈ x.exponent, ∀ c ∈ e.2, c.isDigit = true

/-- The point and the digits after it, as they are written. -/
def fractionText (digits : List Char) : List Char :=
  if digits.isEmpty then [] else '.' :: digits

/-- The exponent with its mark, as it is written. -/
def exponentText : Option (Bool × List Char) → List Char
  | none => []
  | some (negative, digits) => 'e' :: (if negative then ['-'] else []) ++ digits

section Numerals

variable {digits rest : List Char} {x : Numeral}

theorem spanDigits_append (hdigits : ∀ c ∈ digits, c.isDigit = true)
    (hrest : ∀ c, rest.head? = some c → c.isDigit = false) : spanDigits (digits ++ rest) = (digits, rest) := by
  have hnone : rest.takeWhile Char.isDigit = [] ∧ rest.dropWhile Char.isDigit = rest := by
    cases rest with
    | nil => exact ⟨rfl, rfl⟩
    | cons c rest =>
      have hc := hrest c rfl
      exact ⟨List.takeWhile_cons_of_neg (by simp [hc]), List.dropWhile_cons_of_neg (by simp [hc])⟩
  rw [spanDigits, List.takeWhile_append_of_pos hdigits, List.dropWhile_append_of_pos hdigits, hnone.1,
    hnone.2, List.append_nil]

theorem readExponentDigits_append (negative : Bool) (hne : digits ≠ [])
    (hdigits : ∀ c ∈ digits, c.isDigit = true) (hrest : EndsNumeral rest) :
    readExponentDigits negative (digits ++ rest) = some (some (negative, digits), rest) := by
  rw [readExponentDigits, spanDigits_append hdigits fun c hc => (hrest c hc).1]
  simp [hne]

theorem readExponent_append {exponent : Option (Bool × List Char)}
    (hne : ∀ negative, exponent ≠ some (negative, []))
    (hdigits : ∀ e ∈ exponent, ∀ c ∈ e.2, c.isDigit = true) (hrest : EndsNumeral rest) :
    readExponent (exponentText exponent ++ rest) = some (exponent, rest) := by
  match exponent with
  | none =>
    cases rest with
    | nil => rfl
    | cons c rest =>
      obtain ⟨-, -, hsmall, hcapital⟩ := hrest c rfl
      have hmark : ¬(c = 'e' ∨ c = 'E') := not_or.mpr ⟨hsmall, hcapital⟩
      simp [exponentText, readExponent, hmark]
  | some (negative, []) => exact absurd rfl (hne negative)
  | some (true, d :: digits) =>
    exact readExponentDigits_append true (List.cons_ne_nil d digits) (hdigits _ rfl) hrest
  | some (false, d :: digits) =>
    -- a digit is no sign
    have hd : d.isDigit = true := hdigits _ rfl d List.mem_cons_self
    have hplus : d ≠ '+' := fun h => by simp [h] at hd
    have hminus : d ≠ '-' := fun h => by simp [h] at hd
    have hread := readExponentDigits_append false (List.cons_ne_nil d digits) (hdigits _ rfl) hrest
    simpa [exponentText, readExponent, hplus, hminus] using hread

theorem readFraction_append (hdigits : ∀ c ∈ digits, c.isDigit = true)
    (hrest : ∀ c, rest.head? = some c → c.isDigit = false ∧ c ≠ '.') :
    readFraction (fractionText digits ++ rest) = some (digits, rest) := by
  cases digits with
  | nil =>
    cases rest with
    | nil => rfl
    | cons c rest =>
      have hpoint : c ≠ '.' := (hrest c rfl).2
      simp [fractionText, readFraction, hpoint]
  | cons d digits =>
    have hspan := spanDigits_append hdigits fun c hc => (hrest c hc).1
    change readFraction ('.' :: (d :: digits ++ rest)) = _
    rw [readFraction, hspan]
    rfl

theorem head?_exponentText_append {exponent : Option (Bool × List Char)} (hrest : EndsNumeral rest) {c : Char}
    (h : (exponentText exponent ++ rest).head? = some c) : c.isDigit = false ∧ c ≠ '.' := by
  cases exponent with
  | none => exact ⟨(hrest c h).1, (hrest c h).2.1⟩
  | some e =>
    obtain rfl : 'e' = c := Option.some.inj h
    decide

theorem head?_fractionText_append {exponent : Option (Bool × List Char)} (hrest : EndsNumeral rest) {c : Char}
    (h : (fractionText digits ++ (exponentText exponent ++ rest)).head? = some c) : c.isDigit = false := by
  cases digits with
  | nil => exact (head?_exponentText_append hrest h).1
  | cons d digits =>
    obtain rfl : '.' = c := Option.some.inj h
    decide

theorem readUnsigned_append (hx : HasDigits x) (hrest : EndsNumeral rest) :
    readUnsigned x.negative (x.whole ++ (fractionText x.fraction ++ (exponentText x.exponent ++ rest))) =
      if isWhole x.whole then some (x, rest) else none := by
  have hspan : spanDigits (x.whole ++ (fractionText x.fraction ++ (exponentText x.exponent ++ rest))) = _ :=
    spanDigits_append hx.isDigit_whole fun c => head?_fractionText_append hrest
  have hfraction : readFraction (fractionText x.fraction ++ (exponentText x.exponent ++ rest)) = _ :=
    readFraction_append hx.isDigit_fraction fun c => head?_exponentText_append hrest
  have hexponent := readExponent_append hx.exponent_ne_nil hx.isDigit_exponent hrest
  rw [readUnsigned, hspan]
  dsimp only
  cases isWhole x.whole with
  | false => rfl
  | true =>
    change (readFraction _).bind _ = _
    rw [hfraction]
    change (readExponent _).bind _ = _
    rw [hexponent]
    rfl

theorem text_append (x : Numeral) (rest : List Char) : x.text ++ rest =
    (if x.negative then ['-'] else []) ++
      (x.whole ++ (fractionText x.fraction ++ (exponentText x.exponent ++ rest))) := by
  obtain ⟨negative, whole, fraction, exponent⟩ := x
  cases exponent <;> simp [Numeral.text, fractionText, exponentText]

/-- What is written for a numeral is read back as it, unless its whole part starts with an idle zero. -/
theorem readNumeral_text_append (hx : HasDigits x) (hrest : EndsNumeral rest) :
    readNumeral (x.text ++ rest) = if isWhole x.whole then some (x, rest) else none := by
  have h := readUnsigned_append hx hrest
  rw [text_append]
  cases hnegative : x.negative with
  | true =>
    rw [hnegative] at h
    exact h
  | false =>
    rw [hnegative] at h
    obtain ⟨d, digits, hwhole⟩ := List.exists_cons_of_ne_nil hx.whole_ne_nil
    have hd : d.isDigit = true := hx.isDigit_whole d (by simp [hwhole])
    have hminus : d ≠ '-' := fun h => by simp [h] at hd
    rw [hwhole] at h ⊢
    simpa [readNumeral, hminus] using h

end Numerals

/-! ### Numerals of numbers -/

theorem hasDigits_plain {negative : Bool} {whole fraction : List Char} (hne : whole ≠ [])
    (hwhole : ∀ c ∈ whole, c.isDigit = true) (hfraction : ∀ c ∈ fraction, c.isDigit = true) :
    HasDigits ⟨negative, whole, fraction, none⟩ :=
  ⟨hne, hwhole, hfraction, nofun, nofun⟩

theorem hasDigits_ofNat (n : Nat) : HasDigits (.ofNat n) :=
  hasDigits_plain Nat.toDigits_ne_nil (Numeral.isDigit_of_mem_toDigits n) nofun

/-- A double is written in digits. -/
theorem hasDigits_ofDecimal (negative : Bool) (x : Number.Decimal) : HasDigits (.ofDecimal negative x) := by
  have hdigits : ∀ c ∈ x.text, c.isDigit = true := Numeral.isDigit_of_mem_toDigits x.digits
  have hne : x.text ≠ [] := Nat.toDigits_ne_nil
  have htake : ∀ n, ∀ c ∈ x.text.take n, c.isDigit = true :=
    fun n c hc => hdigits c (List.mem_of_mem_take hc)
  have hdrop : ∀ n, ∀ c ∈ x.text.drop n, c.isDigit = true :=
    fun n c hc => hdigits c (List.mem_of_mem_drop hc)
  have hzeros : ∀ n, ∀ c ∈ List.replicate n '0', c.isDigit = true := by
    intro n c hc
    rw [List.eq_of_mem_replicate hc]
    rfl
  rw [Numeral.ofDecimal]
  -- a whole number, a point among the digits, a point before them, and an exponent
  split_ifs with hwhole hpoint hsmall
  · refine hasDigits_plain (List.append_ne_nil_of_left_ne_nil hne _) ?_ (hzeros 1)
    exact fun c hc => (List.mem_append.mp hc).elim (hdigits c) (hzeros _ c)
  · have hpos : (x.exponent + x.text.length).toNat ≠ 0 := by
      simp only [Bool.and_eq_true, decide_eq_true_eq] at hpoint
      omega
    exact hasDigits_plain (by simpa [hne] using hpos) (htake _) (hdrop _)
  · refine hasDigits_plain (List.cons_ne_nil _ _) (hzeros 1) ?_
    exact fun c hc => (List.mem_append.mp hc).elim (hzeros _ c) (hdigits c)
  · refine ⟨by simpa using hne, htake 1, hdrop 1, fun sign h => ?_, fun e he => ?_⟩
    · exact Nat.toDigits_ne_nil (congrArg Prod.snd (Option.some.inj h))
    · obtain rfl := Option.some.inj he
      exact Numeral.isDigit_of_mem_toDigits _

end Checkup.Json
