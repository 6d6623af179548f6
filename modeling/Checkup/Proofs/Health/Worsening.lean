import Checkup.Proofs.Health.Explanation
import Mathlib.Algebra.Order.Field.Basic
import Mathlib.Tactic.GCongr
import Mathlib.Tactic.Linarith

/-!
# Worse findings never raise a score

Findings get worse if something is added to what was found, or if the bounds that they are judged by are drawn
tighter (`Findings.IsWorse`). In exact arithmetic the score of worse findings is no higher, and all scores are in
the range from 0 to 100 (`exists_hasScore_of_isWorse`).

* **Before the score is moved into range** — each of the five formulas is antitone by itself. Where a formula has
  a case of its own, for findings without files, without lines or within the budget, that case gives 100, which is
  the most that the other case can give; and worse findings fall under it only if the better ones do.
* **Afterwards** — moving numbers into range keeps their order (`Measure.clamp_mono`).
-/

namespace Checkup

open Checkup.Health

theorem Measure.clamp_mono {x y : Rat} (h : x ≤ y) : Measure.clamp x ≤ Measure.clamp y := by
  rw [clamp_eq_ite x]
  split_ifs with hneg hhigh
  · exact clamp_nonneg y
  · rw [clamp_eq_ite, if_neg (by linarith), if_pos (by linarith)]
  · rw [clamp_eq_ite, if_neg (by linarith)]
    split_ifs
    · exact not_lt.mp hhigh
    · exact h

/-! ### Duplication -/

namespace Duplication.Findings

variable {f g : Findings}

/-- Duplicates were added, and no fewer of the lines are in duplicates. -/
structure IsWorse (f g : Findings) : Prop where
  duplicates : f.duplicates.Sublist g.duplicates
  duplicatedLines : f.duplicatedLines ≤ g.duplicatedLines
  totalLines : g.totalLines = f.totalLines

theorem percentage_nonneg (f : Findings) : (0 : Rat) ≤ f.percentage := by
  rw [percentage]
  split
  · exact le_refl 0
  · simp only [Measure.ofNat_eq]
    positivity

theorem IsWorse.percentage_le (h : f.IsWorse g) : (f.percentage : Rat) ≤ g.percentage := by
  rw [percentage, percentage, h.totalLines]
  split
  · exact le_refl _
  · simp only [Measure.ofNat_eq]
    gcongr
    exact h.duplicatedLines

theorem score_le_hundred (f : Findings) : (f.score : Rat) ≤ 100 := by
  have hlost := f.percentage_nonneg
  rw [score]
  simp only [Measure.ofNat_eq, Nat.cast_ofNat]
  split
  · exact le_refl _
  · linarith

theorem IsWorse.score_le (h : f.IsWorse g) : (g.score : Rat) ≤ f.score := by
  by_cases hfull : (f.duplicates.isEmpty || f.totalLines = 0) = true
  · rw [score.eq_def f, if_pos hfull]
    exact g.score_le_hundred
  · -- lines and duplicates that are there are there still
    have hfull' : ¬(g.duplicates.isEmpty || g.totalLines = 0) = true := by
      simp only [Bool.or_eq_true, List.isEmpty_iff, decide_eq_true_eq, not_or] at hfull ⊢
      exact ⟨fun hnil => hfull.1 (List.sublist_nil.mp (hnil ▸ h.duplicates)), h.totalLines ▸ hfull.2⟩
    have hlost := h.percentage_le
    rw [score, score, if_neg hfull, if_neg hfull']
    simp only [Measure.ofNat_eq, Nat.cast_ofNat]
    linarith

end Duplication.Findings

/-! ### Complexity -/

namespace Complexity.Findings

variable {f g : Findings}

/-- As many files are judged by one limit, each of them at least as complex. -/
structure IsWorse (f g : Findings) : Prop where
  files : List.Forall₂ (fun a b : FileComplexity => a.complexity ≤ b.complexity) f.files g.files
  maxFileComplexity : g.maxFileComplexity = f.maxFileComplexity

/-- Of files that are more complex, no fewer have a property that comes with complexity. -/
theorem countP_le_of_forall₂ {p : FileComplexity → Bool} {as bs : List FileComplexity}
    (hp : ∀ a b : FileComplexity, a.complexity ≤ b.complexity → p a → p b)
    (h : List.Forall₂ (fun a b : FileComplexity => a.complexity ≤ b.complexity) as bs) :
    as.countP p ≤ bs.countP p := by
  induction h with
  | nil => exact Nat.le_refl _
  | @cons a b as bs hab _ ih =>
    have hhead : (if p a then 1 else 0) ≤ if p b then 1 else 0 := by
      have := hp a b hab
      split_ifs <;> simp_all
    rw [List.countP_cons, List.countP_cons]
    omega

theorem IsWorse.length_overLimit_le (h : f.IsWorse g) : f.overLimit.length ≤ g.overLimit.length := by
  rw [overLimit, overLimit, h.maxFileComplexity, ← List.countP_eq_length_filter, ← List.countP_eq_length_filter]
  refine countP_le_of_forall₂ (fun a b hab ha => ?_) h.files
  rw [decide_eq_true_iff] at ha ⊢
  omega

theorem IsWorse.length_critical_le (h : f.IsWorse g) : (f.files.filter (·.isCritical f.maxFileComplexity)).length ≤
    (g.files.filter (·.isCritical g.maxFileComplexity)).length := by
  rw [h.maxFileComplexity, ← List.countP_eq_length_filter, ← List.countP_eq_length_filter]
  refine countP_le_of_forall₂ (fun a b hab ha => ?_) h.files
  rw [FileComplexity.isCritical, decide_eq_true_iff] at ha ⊢
  omega

theorem IsWorse.score_le (h : f.IsWorse g) : (g.score : Rat) ≤ f.score := by
  have hfiles : f.files.length = g.files.length := h.files.length_eq
  rw [score, score]
  by_cases hnone : g.files = []
  · rw [if_pos (by simpa using hnone), if_pos (by simpa [hnone] using hfiles)]
  · have hwithin : (g.files.filter (·.complexity ≤ g.maxFileComplexity)).length ≤
        (f.files.filter (·.complexity ≤ f.maxFileComplexity)).length := by
      have hf := f.length_within_add
      have hg := g.length_within_add
      have hover := h.length_overLimit_le
      omega
    have hcritical := h.length_critical_le
    have hsome : ¬f.files = [] := fun hnil => hnone (List.length_eq_zero_iff.mp (hfiles ▸ by simp [hnil]))
    rw [if_neg (by simpa using hnone), if_neg (by simpa using hsome)]
    simp only [Measure.ofNat_eq, hfiles]
    gcongr

end Complexity.Findings

/-! ### Dependencies -/

namespace Dependency.Findings

variable {f g : Findings}

/-- Dependencies or outdated packages were added, or the maximum is smaller. -/
structure IsWorse (f g : Findings) : Prop where
  entries : f.entries.Sublist g.entries
  outdated : f.outdated.Sublist g.outdated
  maxDependencies : g.maxDependencies ≤ f.maxDependencies

theorem IsWorse.score_le (h : f.IsWorse g) : (g.score : Rat) ≤ f.score := by
  have hunpinned : f.unpinned.length ≤ g.unpinned.length := (h.entries.filter _).length_le
  have houtdated := h.outdated.length_le
  have hexcess : f.excess ≤ g.excess := by
    have hdirect : f.directCount ≤ g.directCount := (h.entries.filter _).length_le
    have hmax := h.maxDependencies
    rw [excess, excess]
    omega
  rw [score, score]
  simp only [Measure.ofNat_eq]
  gcongr

end Dependency.Findings

/-! ### Assets -/

namespace Assets.Findings

variable {f g : Findings}

/-- As much or more was emitted, against a budget that is no larger. -/
structure IsWorse (f g : Findings) : Prop where
  totalBytes : f.totalBytes ≤ g.totalBytes
  budgetBytes : g.budgetBytes ≤ f.budgetBytes

theorem score_le_hundred (f : Findings) : (f.score : Rat) ≤ 100 := by
  rw [score]
  simp only [Measure.ofNat_eq, Nat.cast_ofNat]
  split_ifs with hwithin
  · exact le_refl _
  · have hover : (f.budgetBytes : Rat) ≤ f.totalBytes := by exact_mod_cast (Nat.lt_of_not_le hwithin).le
    exact div_le_of_le_mul₀ (by positivity) (by norm_num) (by linarith)

theorem IsWorse.score_le (h : f.IsWorse g) : (g.score : Rat) ≤ f.score := by
  obtain ⟨htotal, hbudget⟩ := h
  by_cases hwithin : f.totalBytes ≤ f.budgetBytes
  · rw [score.eq_def f, if_pos hwithin]
    exact g.score_le_hundred
  · have hover : ¬g.totalBytes ≤ g.budgetBytes := by omega
    have hpos : (0 : Rat) < f.totalBytes := by exact_mod_cast (show 0 < f.totalBytes by omega)
    rw [score, score, if_neg hwithin, if_neg hover]
    simp only [Measure.ofNat_eq]
    gcongr

end Assets.Findings

/-! ### Escapes -/

namespace Escapes.Findings

variable {f g : Findings}

/-- Escapes were added, and the lines are as many. -/
structure IsWorse (f g : Findings) : Prop where
  escapes : f.escapes.Sublist g.escapes
  totalLines : g.totalLines = f.totalLines

theorem IsWorse.density_le (h : f.IsWorse g) : (f.density : Rat) ≤ g.density := by
  have hlength := h.escapes.length_le
  rw [density, density, h.totalLines]
  split
  · exact le_refl _
  · simp only [Measure.ofNat_eq]
    gcongr

theorem IsWorse.score_le (h : f.IsWorse g) : (g.score : Rat) ≤ f.score := by
  have hlost := h.density_le
  rw [score, score]
  simp only [Measure.ofNat_eq]
  gcongr

end Escapes.Findings

/-! ### Scores of profiles -/

/-- Findings of one analyzer are the others made worse. -/
inductive Findings.IsWorse : Findings → Findings → Prop
  | duplication {f g : Duplication.Findings} (h : f.IsWorse g) : IsWorse (.duplication f) (.duplication g)
  | complexity {f g : Complexity.Findings} (h : f.IsWorse g) : IsWorse (.complexity f) (.complexity g)
  | dependency {f g : Dependency.Findings} (h : f.IsWorse g) : IsWorse (.dependency f) (.dependency g)
  | bundleSize {f g : Assets.Findings} (h : f.IsWorse g) : IsWorse (.bundleSize f) (.bundleSize g)
  | typeSafety {f g : Escapes.Findings} (h : f.IsWorse g) : IsWorse (.typeSafety f) (.typeSafety g)

namespace Findings

variable {f g : Findings}

/-- The built-in profile that reads the findings. -/
def profile : Findings → Profile Rat
  | duplication _ => .duplication
  | complexity _ => .complexity
  | dependency _ => .dependency
  | bundleSize _ => .bundleSize
  | typeSafety _ => .typeSafety

/-- The score of the findings before it is moved into range. -/
def rawScore : Findings → Rat
  | duplication found => found.score
  | complexity found => found.score
  | dependency found => found.score
  | bundleSize found => found.score
  | typeSafety found => found.score

theorem profile_mem_builtIn (f : Findings) : f.profile ∈ Profiles.builtIn := by
  cases f <;> simp [profile, Profiles.builtIn]

theorem eq_profile_of_isSome (f : Findings) :
    ∀ p ∈ (Profiles.builtIn : Profiles Rat), (p.score? f).isSome → p = f.profile := by
  cases f with
  | duplication => exact Profiles.forall_mem_builtIn.mpr ⟨fun _ => rfl, nofun, nofun, nofun, nofun⟩
  | complexity => exact Profiles.forall_mem_builtIn.mpr ⟨nofun, fun _ => rfl, nofun, nofun, nofun⟩
  | dependency => exact Profiles.forall_mem_builtIn.mpr ⟨nofun, nofun, fun _ => rfl, nofun, nofun⟩
  | bundleSize => exact Profiles.forall_mem_builtIn.mpr ⟨nofun, nofun, nofun, fun _ => rfl, nofun⟩
  | typeSafety => exact Profiles.forall_mem_builtIn.mpr ⟨nofun, nofun, nofun, nofun, fun _ => rfl⟩

theorem IsWorse.profile_eq (h : f.IsWorse g) : g.profile = f.profile := by
  cases h <;> rfl

theorem IsWorse.rawScore_le (h : f.IsWorse g) : g.rawScore ≤ f.rawScore := by
  cases h with
  | duplication h => exact h.score_le
  | complexity h => exact h.score_le
  | dependency h => exact h.score_le
  | bundleSize h => exact h.score_le
  | typeSafety h => exact h.score_le

end Findings

namespace Health

/-- A profile gives findings a score, by itself and in their summary. -/
structure Profile.HasScore (p : Profile Rat) (findings : Findings) (score : Rat) : Prop where
  score?_eq : p.score? findings = some score
  summarize?_eq : (p.summarize? findings).map (·.score) = some score

theorem hasScore_profile (f : Findings) : f.profile.HasScore f (Measure.clamp f.rawScore) := by
  cases f <;> exact ⟨rfl, rfl⟩

/-- **Worse findings never raise a score.** Any findings have a score under just one of the built-in profiles. It is
in range, and worse findings have one under the same profile that is in range and no higher. -/
theorem exists_hasScore_of_isWorse (findings : Findings) :
    ∃ profile ∈ (Profiles.builtIn : Profiles Rat),
      (∀ other ∈ (Profiles.builtIn : Profiles Rat), (other.score? findings).isSome → other = profile) ∧
      ∃ score, profile.HasScore findings score ∧ (0 ≤ score ∧ score ≤ 100) ∧
        ∀ worse, findings.IsWorse worse → ∃ lower, profile.HasScore worse lower ∧ 0 ≤ lower ∧ lower ≤ score := by
  refine ⟨findings.profile, findings.profile_mem_builtIn, findings.eq_profile_of_isSome, _,
    hasScore_profile findings, ⟨Measure.clamp_nonneg _, Measure.clamp_le _⟩, fun worse h => ?_⟩
  have hscore := hasScore_profile worse
  rw [h.profile_eq] at hscore
  exact ⟨_, hscore, Measure.clamp_nonneg _, Measure.clamp_mono h.rawScore_le⟩

/-- Two of four files are above the limit, and one of them above twice the limit. -/
def unevenFiles : Complexity.Findings :=
  ⟨[⟨"a.ts", 5, 10⟩, ⟨"b.ts", 25, 10⟩, ⟨"c.ts", 45, 10⟩, ⟨"d.ts", 20, 10⟩], 20, []⟩

/-- The same files, all of them above the limit and two above twice the limit. -/
def worseFiles : Complexity.Findings :=
  ⟨[⟨"a.ts", 21, 10⟩, ⟨"b.ts", 41, 10⟩, ⟨"c.ts", 45, 10⟩, ⟨"d.ts", 21, 10⟩], 20, []⟩

/-- The score falls from 48 to below 0, and so to 0. -/
theorem hasScore_worseFiles :
    (Findings.complexity unevenFiles).IsWorse (.complexity worseFiles) ∧
      ∃ profile ∈ (Profiles.builtIn : Profiles Rat), profile.HasScore (.complexity unevenFiles) 48 ∧
        profile.HasScore (.complexity worseFiles) 0 ∧ (worseFiles.score : Rat) < 0 := by
  have hworse : (Findings.complexity unevenFiles).IsWorse (.complexity worseFiles) :=
    .complexity ⟨by simp [unevenFiles, worseFiles], rfl⟩
  obtain ⟨profile, hprofile, honly, score, hscore, -, hlower⟩ :=
    exists_hasScore_of_isWorse (.complexity unevenFiles)
  obtain ⟨lower, hscore', -⟩ := hlower _ hworse
  obtain rfl : Profile.complexity = profile := honly _ (by simp [Profiles.builtIn]) rfl
  obtain rfl : (48 : Rat) = score := Option.some.inj (Eq.trans (by decide +kernel) hscore.score?_eq)
  obtain rfl : (0 : Rat) = lower := Option.some.inj (Eq.trans (by decide +kernel) hscore'.score?_eq)
  exact ⟨hworse, _, hprofile, hscore, hscore', by decide +kernel⟩

end Health

end Checkup
