import Checkup.Text.LetterCase
import Checkup.Text.Word
import Checkup.Proofs.Text.Blank
import Mathlib.Data.List.Forall2

/-!
# Lower case, blanks and capital letters

Blanks take no part in case: none has a lower case of its own, is a cased letter, or is passed over when the
neighbours of a sigma are looked at (`blank_facts`), and no letter has a blank as its lower case. So a blank
ends every word for the final sigma, and taking the lower case is a wordwise pass
(`isWordwise_lowercase`). Nor is any blank a word character (`isWord_of_isBlank`).

A capital letter of ASCII and its small letter are one to the tables of case (`capital_facts`), a neighbouring
sigma included. So texts that differ in the case of such letters alone have the same lower case
(`lowercase_congr`).
-/

namespace Checkup.Text

/-! ### Characters -/

/-- The table of word characters, looked up at each blank. -/
theorem isWord_blankCodePoints : ∀ n ∈ blankCodePoints, isWord (Char.ofNat n) = false := by
  decide +kernel

theorem isWord_of_isBlank {c : Char} (hc : isBlank c = true) : isWord c = false := by
  have h := isWord_blankCodePoints c.toNat (isBlank_iff.mp hc)
  rwa [Char.ofNat_toNat] at h

/-- The tables of letter case, looked up at each blank. -/
theorem blank_facts : ∀ n ∈ blankCodePoints,
    isCased (Char.ofNat n) = false ∧ isCaseIgnorable (Char.ofNat n) = false ∧
      lowerChar (Char.ofNat n) = [Char.ofNat n] := by
  decide +kernel

theorem isCased_of_isBlank {c : Char} (hc : isBlank c = true) : isCased c = false := by
  have h := (blank_facts c.toNat (isBlank_iff.mp hc)).1
  rwa [Char.ofNat_toNat] at h

theorem isCaseIgnorable_of_isBlank {c : Char} (hc : isBlank c = true) :
    isCaseIgnorable c = false := by
  have h := (blank_facts c.toNat (isBlank_iff.mp hc)).2.1
  rwa [Char.ofNat_toNat] at h

theorem lowerChar_of_isBlank {c : Char} (hc : isBlank c = true) : lowerChar c = [c] := by
  have h := (blank_facts c.toNat (isBlank_iff.mp hc)).2.2
  rwa [Char.ofNat_toNat] at h

theorem isBlank_ofNat {n : Nat} (hn : n ∉ blankCodePoints) : isBlank (Char.ofNat n) = false := by
  have hcode : (Char.ofNat n).toNat = n ∨ (Char.ofNat n).toNat = 0 := by
    by_cases hvalid : n.isValidChar
    · rw [Char.ofNat, dif_pos hvalid]
      exact Or.inl rfl
    · rw [Char.ofNat, dif_neg hvalid]
      exact Or.inr rfl
  rw [Bool.eq_false_iff, Ne, isBlank_iff]
  rcases hcode with hcode | hcode
  · rwa [hcode]
  · rw [hcode]
    decide

/-- A look-up finds a run of the table that encloses the code point. -/
theorem CaseRun.mem_of_find? {runs : Array CaseRun} {n lo hi : Nat} {run : CaseRun}
    (h : CaseRun.find? runs n lo hi = some run) : run ∈ runs ∧ run.first ≤ n ∧ n ≤ run.last := by
  fun_induction CaseRun.find? runs n lo hi with
  | case1 => simp at h
  | case2 lo hi hlt mid r hr hn ih => exact ih h
  | case3 lo hi hlt mid r hr hn hn' ih => exact ih h
  | case4 lo hi hlt mid r hr hn hn' =>
    obtain rfl := Option.some.inj h
    exact ⟨Array.mem_of_getElem? hr, Nat.le_of_not_lt hn, Nat.le_of_not_lt hn'⟩
  | case5 => simp at h

/-- No run of the table leads to a blank. -/
theorem lowerRuns_avoid : ∀ run ∈ lowerRuns, ∀ n ∈ blankCodePoints,
    n < run.lower ∨ run.lower + (run.last - run.first) < n := by
  decide +kernel

theorem not_isBlank_of_mem_lowerChar {c d : Char} (hc : isBlank c = false) (hd : d ∈ lowerChar c) :
    isBlank d = false := by
  rw [lowerChar] at hd
  split at hd
  · rw [List.mem_singleton] at hd
    split at hd
    · next hupper =>
      -- the lower case of an ASCII letter is an ASCII letter
      simp only [Bool.and_eq_true, decide_eq_true_eq] at hupper
      rw [hd]
      refine isBlank_ofNat fun hmem => ?_
      simp only [blankCodePoints, List.mem_cons, List.not_mem_nil, or_false] at hmem
      omega
    · rwa [hd]
  · split at hd
    · simp only [List.mem_cons, List.not_mem_nil, or_false] at hd
      rcases hd with rfl | rfl <;> decide
    · split at hd
      · rwa [List.mem_singleton.mp hd]
      · next run hrun =>
        split at hd
        · -- the lower case lies in the image of the run, which no blank is in
          obtain ⟨hmem, hfirst, hlast⟩ := CaseRun.mem_of_find? hrun
          rw [List.mem_singleton.mp hd]
          refine isBlank_ofNat fun hblank => ?_
          have := lowerRuns_avoid run hmem _ hblank
          omega
        · rwa [List.mem_singleton.mp hd]

theorem lowerChar_ne_nil (c : Char) : lowerChar c ≠ [] := by
  rw [lowerChar]
  repeat' split
  all_goals exact List.cons_ne_nil _ _

/-! ### Texts -/

/-- A character that is its own lower case keeps its place: how long the lower case of a text is does not
hang on what follows it. -/
theorem getElem?_lowercaseAfter_append_cons {c : Char} (hlower : lowerChar c = [c])
    (hsigma : c.toNat ≠ 0x3A3) (cased : Bool) (cs ds : List Char) :
    (lowercaseAfter cased (cs ++ c :: ds))[(lowercaseAfter cased cs).length]? = some c := by
  induction cs generalizing cased with
  | nil => simp [lowercaseAfter, hlower, hsigma]
  | cons a cs ih =>
    rw [List.cons_append, lowercaseAfter, lowercaseAfter]
    split
    · rw [List.length_cons, List.getElem?_cons_succ]
      exact ih _
    · rw [List.length_append, List.getElem?_append_right (Nat.le_add_right _ _),
        Nat.add_sub_cancel_left]
      exact ih _

/-- A blank ends the search for a cased letter. -/
theorem startsCased_append_blank {c : Char} (hc : isBlank c = true) (cs ds : List Char) :
    startsCased (cs ++ c :: ds) = startsCased cs := by
  induction cs with
  | nil => simp [startsCased, isCaseIgnorable_of_isBlank hc, isCased_of_isBlank hc]
  | cons a cs ih => rw [List.cons_append, startsCased, startsCased, ih]

/-- The code point of the capital sigma is none of a blank. -/
theorem toNat_ne_sigma_of_isBlank {c : Char} (hc : isBlank c = true) : c.toNat ≠ 0x3A3 := by
  have hn := isBlank_iff.mp hc
  intro heq
  rw [heq] at hn
  revert hn
  decide

theorem lowercaseAfter_append_blank {c : Char} (hc : isBlank c = true) (cased : Bool)
    (cs ds : List Char) :
    lowercaseAfter cased (cs ++ c :: ds) = lowercaseAfter cased cs ++ c :: lowercaseAfter false ds := by
  induction cs generalizing cased with
  | nil =>
    simp [lowercaseAfter, toNat_ne_sigma_of_isBlank hc, isCaseIgnorable_of_isBlank hc,
      isCased_of_isBlank hc, lowerChar_of_isBlank hc]
  | cons a cs ih =>
    rw [List.cons_append, lowercaseAfter, lowercaseAfter]
    simp only [startsCased_append_blank hc, ih]
    split
    · rfl
    · rw [List.append_assoc]

theorem not_isBlank_of_mem_lowercaseAfter {cs : List Char} (hcs : ∀ c ∈ cs, isBlank c = false)
    (cased : Bool) : ∀ d ∈ lowercaseAfter cased cs, isBlank d = false := by
  induction cs generalizing cased with
  | nil => simp [lowercaseAfter]
  | cons c cs ih =>
    obtain ⟨hc, hcs⟩ := List.forall_mem_cons.mp hcs
    intro d hd
    rw [lowercaseAfter] at hd
    split at hd
    · rcases List.mem_cons.mp hd with rfl | hd
      · split <;> decide
      · exact ih hcs _ d hd
    · rcases List.mem_append.mp hd with hd | hd
      · exact not_isBlank_of_mem_lowerChar hc hd
      · exact ih hcs _ d hd

/-- **Taking the lower case is a wordwise pass.** -/
theorem isWordwise_lowercase : IsWordwise lowercase where
  nil := rfl
  append_blank cs _ ds hc := lowercaseAfter_append_blank hc false cs ds
  not_blank hword := not_isBlank_of_mem_lowercaseAfter hword false
  ne_nil {word} hne _ := by
    cases word with
    | nil => exact absurd rfl hne
    | cons c cs =>
      rw [lowercase, lowercaseAfter]
      split
      · exact List.cons_ne_nil _ _
      · exact List.append_ne_nil_of_left_ne_nil (lowerChar_ne_nil c) _

/-! ### Letters in another case -/

/-- The capital letters of ASCII, by their numbers. -/
def capital (n : Nat) : Char :=
  Char.ofNat (65 + n)

theorem exists_eq_capital {c : Char} (hc : c.val ≥ 'A'.val ∧ c.val ≤ 'Z'.val) : ∃ n < 26, c = capital n := by
  have hlow : 65 ≤ c.toNat := UInt32.le_iff_toNat_le.mp hc.1
  have hhigh : c.toNat ≤ 90 := UInt32.le_iff_toNat_le.mp hc.2
  refine ⟨c.toNat - 65, by omega, ?_⟩
  rw [capital, Nat.add_sub_cancel' hlow, Char.ofNat_toNat]

/-- What every capital letter has in common with its small letter is common to all characters that differ in case
alone. -/
theorem congr_of_toLower_eq {β : Type} (f : Char → β) (hf : ∀ n < 26, f (capital n).toLower = f (capital n))
    {c d : Char} (h : c.toLower = d.toLower) : f c = f d := by
  have hlower (c : Char) : f c.toLower = f c := by
    by_cases hc : c.val ≥ 'A'.val ∧ c.val ≤ 'Z'.val
    · obtain ⟨n, hn, rfl⟩ := exists_eq_capital hc
      exact hf n hn
    · have hsmall : c.toLower = c := dif_neg hc
      rw [hsmall]
  rw [← hlower c, h, hlower d]

/-- The tables of letter case, looked up at each capital letter. -/
theorem capital_facts : ∀ n < 26, isCased (capital n).toLower = isCased (capital n) ∧
    isCaseIgnorable (capital n).toLower = isCaseIgnorable (capital n) ∧
      lowerChar (capital n).toLower = lowerChar (capital n) ∧
        ((capital n).toLower.toNat == 0x3A3) = ((capital n).toNat == 0x3A3) := by
  decide +kernel

/-- Two texts are the same but for the case of ASCII letters. -/
abbrev SameButCase : List Char → List Char → Prop :=
  List.Forall₂ fun c d => c.toLower = d.toLower

theorem startsCased_congr {cs ds : List Char} (h : SameButCase cs ds) : startsCased cs = startsCased ds := by
  induction h with
  | nil => rfl
  | cons hcd _ ih =>
    have hcased := congr_of_toLower_eq isCased (fun n hn => (capital_facts n hn).1) hcd
    have hignorable := congr_of_toLower_eq isCaseIgnorable (fun n hn => (capital_facts n hn).2.1) hcd
    rw [startsCased, startsCased, hcased, hignorable, ih]

theorem lowercaseAfter_congr {cs ds : List Char} (h : SameButCase cs ds) (cased : Bool) :
    lowercaseAfter cased cs = lowercaseAfter cased ds := by
  induction h generalizing cased with
  | nil => rfl
  | cons hcd hrest ih =>
    have hcased := congr_of_toLower_eq isCased (fun n hn => (capital_facts n hn).1) hcd
    have hignorable := congr_of_toLower_eq isCaseIgnorable (fun n hn => (capital_facts n hn).2.1) hcd
    have hlower := congr_of_toLower_eq lowerChar (fun n hn => (capital_facts n hn).2.2.1) hcd
    have hsigma := congr_of_toLower_eq (·.toNat == 0x3A3) (fun n hn => (capital_facts n hn).2.2.2) hcd
    rw [lowercaseAfter, lowercaseAfter]
    simp only [hcased, hignorable, hlower, hsigma, startsCased_congr hrest, ih]

/-- **The lower case of a text does not hang on the case of its ASCII letters.** -/
theorem lowercase_congr {cs ds : List Char} (h : SameButCase cs ds) : lowercase cs = lowercase ds :=
  lowercaseAfter_congr h false

end Checkup.Text
