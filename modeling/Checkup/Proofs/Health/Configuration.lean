import Checkup.Health.Profile
import Checkup.Config.Validate
import Checkup.Proofs.Analyzer.Overflow
import Checkup.Proofs.Number.Double

/-!
# The profiles of a valid configuration

A configuration is checked entry by entry, under whatever names its entries stand, and applied profile by profile.
The checks do not know the profiles: a new warning threshold is judged by itself, and what it does to the critical
one depends on the profile. Still the profiles of a configuration that passes its checks are fit for use
(`isWellFormed_ofConfig`).

* **Doubles** — the checks are comparisons, which an infinite number or one that is none can pass or fail in odd
  ways. A weight that is finite and not less than or equal to 0 is greater (`exists_denotes_of_not_le`), and what is
  at least 0 and at most 100 is a number between (`exists_denotes_of_le`).
* **Checks** — a configuration passes if each of its entries does (`Config.validate_eq_ok_iff`).
* **Changes** — a profile is changed by the entries under its own name and by no others
  (`isConfigured_configure`), and one that is fit for use remains so (`isSound_configure`).
-/

namespace Checkup

open Float.Model

/-! ### Doubles that pass comparisons -/

namespace Number

variable {x y z : Float} {p q : Rat}

theorem Denotes.isNaN (hx : Denotes x p) : x.isNaN = false := by
  rw [Float.isNaN, Float.Model.isNaN]
  cases hx with
  | zero h | finite h => rw [h]; rfl

theorem le_iff_le_unpack : x ≤ y ↔ x.toModel.unpack.le y.toModel.unpack = true :=
  decide_eq_true_iff

/-- A finite double that is not less than or equal to 0 stands for a positive number. -/
theorem exists_denotes_of_not_le (hfinite : x.isFinite = true) (hpos : ¬x ≤ Float.ofNat 0) : ∃ p > 0, Denotes x p := by
  have hzero : Denotes (Float.ofNat 0) 0 := .zero unpack_ofNat_zero
  rw [Float.isFinite, Float.Model.isFinite] at hfinite
  cases hx : x.toModel.unpack with
  | notANumber | infinity =>
    rw [hx] at hfinite
    contradiction
  | zero s => exact absurd ((Denotes.zero hx).le_iff hzero |>.mpr le_rfl) hpos
  | finite s m e hm =>
    cases s with
    | positive => exact ⟨_, by positivity, .finite hx⟩
    | negative =>
      rw [le_iff_le_unpack, unpack_ofNat_zero, hx] at hpos
      exact absurd rfl hpos

/-- A double between 0 and another one stands for a number up to that one's. -/
theorem exists_denotes_of_le (hlow : Float.ofNat 0 ≤ x) (hy : Denotes y q) (hhigh : x ≤ y) : ∃ p ≤ q, Denotes x p := by
  rw [le_iff_le_unpack, unpack_ofNat_zero] at hlow
  cases hx : x.toModel.unpack with
  | notANumber =>
    rw [hx] at hlow
    contradiction
  | zero s => exact ⟨0, hy.nonneg, .zero hx⟩
  | finite s m e hm =>
    cases s with
    | positive => exact ⟨_, ((Denotes.finite hx).le_iff hy).mp hhigh, .finite hx⟩
    | negative =>
      rw [hx] at hlow
      contradiction
  | infinity s =>
    cases s with
    | positive =>
      rw [le_iff_le_unpack, hx] at hhigh
      cases hy with
      | zero h | finite h =>
        rw [h] at hhigh
        contradiction
    | negative =>
      rw [hx] at hlow
      contradiction

/-- A double is one of two that is less than or equal to the other. -/
def IsLesser (x y z : Float) : Prop :=
  z = x ∧ x ≤ y ∨ z = y ∧ y ≤ x

theorem isLesser_least (hx : Denotes x p) (hy : Denotes y q) : IsLesser x y (Measure.least x y) := by
  have hxnumber : Measure.isNaN x = false := hx.isNaN
  have hynumber : Measure.isNaN y = false := hy.isNaN
  rw [Measure.least, hxnumber, hynumber, if_neg Bool.false_ne_true, if_neg Bool.false_ne_true]
  split
  · next hlt =>
    have hlt : y < x := of_decide_eq_true hlt
    exact .inr ⟨rfl, (hy.le_iff hx).mpr ((hy.lt_iff hx).mp hlt).le⟩
  · next hlt =>
    have hlt : ¬y < x := fun h => hlt (decide_eq_true h)
    exact .inl ⟨rfl, (hx.le_iff hy).mpr (not_lt.mp fun h => hlt ((hy.lt_iff hx).mpr h))⟩

end Number

open Number

/-! ### What the checks let pass -/

/-- A step for each entry of a list succeeds if all steps do. -/
theorem forM_eq_ok_iff {ε α : Type} {f : α → Except ε Unit} {l : List α} {u : Unit} :
    l.forM f = .ok u ↔ ∀ a ∈ l, f a = .ok () := by
  rw [List.forM_eq_forM]
  induction l with
  | nil => exact iff_of_true rfl nofun
  | cons a rest ih =>
    simp only [List.forM_cons, List.forall_mem_cons, ← ih, bind_eq_ok_iff, Unique.exists_iff, PUnit.default_eq_unit]

theorem Config.validate_eq_ok_iff {config : Config Float} : config.validate = .ok () ↔
    (∃ exclusion, config.exclusion = .ok exclusion) ∧
      (∀ e ∈ config.weights, checkWeight e.1 e.2 = (.ok () : Except (ConfigError Float) Unit)) ∧
      (∀ e ∈ config.thresholds, checkThreshold e.1 e.2 = .ok ()) ∧
      checkWindows config.duplication = (.ok () : Except (ConfigError Float) Unit) := by
  simp only [validate, bind_eq_ok_iff, forM_eq_ok_iff, exists_and_right, exists_const]

section Checks

variable {name : String} {x : Float} {p : Rat}

theorem isFinite_and_pos_of_checkWeight (h : checkWeight name x = (.ok () : Except (ConfigError Float) Unit)) :
    x.isFinite = true ∧ 0 < x := by
  rw [checkWeight] at h
  split at h
  · contradiction
  · next hpasses =>
    have hpasses : ¬(!x.isFinite || decide (x ≤ 0)) = true := hpasses
    simp only [Bool.or_eq_true, Bool.not_eq_true', decide_eq_true_eq, not_or, Bool.not_eq_false] at hpasses
    obtain ⟨hfinite, hpos⟩ := hpasses
    obtain ⟨p, hp, hx⟩ := exists_denotes_of_not_le hfinite hpos
    exact ⟨hfinite, ((Denotes.zero unpack_ofNat_zero).lt_iff hx).mpr hp⟩

theorem exists_denotes_of_isPercentage (h : isPercentage x = true) : ∃ p ≤ 100, Denotes x p := by
  obtain ⟨hlow, hhigh⟩ := Bool.and_eq_true_iff.mp h
  exact exists_denotes_of_le (of_decide_eq_true hlow) (denotes_ofNat_of_lt (by norm_num)) (of_decide_eq_true hhigh)

namespace Health

/-- Thresholds are percentages, the critical one no higher than the other. -/
structure Thresholds.IsBanded (t : Thresholds Float) : Prop where
  nonneg : 0 ≤ t.critical
  critical_le : t.critical ≤ t.warning
  warning_le : t.warning ≤ 100

variable {t : Thresholds Float} {q : Rat}

theorem Thresholds.isBanded_of_denotes (hcritical : Denotes t.critical p) (hwarning : Denotes t.warning q)
    (hle : p ≤ q) (hhigh : q ≤ 100) : t.IsBanded where
  nonneg := ((Denotes.zero unpack_ofNat_zero).le_iff hcritical).mpr hcritical.nonneg
  critical_le := (hcritical.le_iff hwarning).mpr hle
  warning_le := (hwarning.le_iff (denotes_ofNat_of_lt (by norm_num))).mpr hhigh

/-- A change that passes its check makes thresholds that are percentages in order, whatever they were. -/
theorem Thresholds.isBanded_change (hcritical : Denotes t.critical p) {setting : ThresholdSetting Float}
    (h : checkThreshold name setting = .ok ()) : (t.change setting).IsBanded := by
  cases setting with
  | warning value =>
    rw [checkThreshold] at h
    split at h
    case isFalse => contradiction
    case isTrue hvalue =>
      obtain ⟨q, hq, hvalue⟩ := exists_denotes_of_isPercentage hvalue
      -- the new critical threshold is the lesser of two numbers, one of which is the new warning threshold
      rw [change]
      rcases isLesser_least hcritical hvalue with ⟨hleast, hle⟩ | ⟨hleast, -⟩
      · rw [hleast]
        exact isBanded_of_denotes hcritical hvalue ((hcritical.le_iff hvalue).mp hle) hq
      · rw [hleast]
        exact isBanded_of_denotes hvalue hvalue le_rfl hq
  | bands critical warning =>
    rw [checkThreshold] at h
    split at h
    case isTrue => contradiction
    case isFalse hcrossed =>
      split at h
      case isFalse => contradiction
      case isTrue hboth =>
        obtain ⟨hcritical, hwarning⟩ := Bool.and_eq_true_iff.mp hboth
        obtain ⟨p, -, hcritical⟩ := exists_denotes_of_isPercentage hcritical
        obtain ⟨q, hq, hwarning⟩ := exists_denotes_of_isPercentage hwarning
        have hle : p ≤ q := not_lt.mp fun hlt => hcrossed (decide_eq_true ((hwarning.lt_iff hcritical).mpr hlt))
        exact isBanded_of_denotes hcritical hwarning hle hq

end Health

end Checks

namespace Health

/-! ### Profiles that are fit for use -/

/-- A profile can be used: its weight is a positive number, and its thresholds are percentages in order. -/
structure Profile.IsSound (p : Profile Float) : Prop where
  isFinite : p.weight.isFinite = true
  weight_pos : 0 < p.weight
  isBanded : p.thresholds.IsBanded

/-- What a configuration makes of a profile. -/
structure Profile.IsConfigured (config : Config Float) (original p : Profile Float) : Prop where
  name_eq : p.name = original.name
  rawScore?_eq : p.rawScore? = original.rawScore?
  rawSummary?_eq : p.rawSummary? = original.rawSummary?
  eq_original : config.weights.lookup original.name = none → config.thresholds.lookup original.name = none →
    p = original
  weight_eq : p.weight = (config.weights.lookup original.name).getD original.weight
  thresholds_eq : config.thresholds.lookup original.name = none → p.thresholds = original.thresholds
  warning_eq : ∀ value, config.thresholds.lookup original.name = some (.warning value) →
    p.thresholds.warning = value ∧ IsLesser original.thresholds.critical value p.thresholds.critical
  bands_eq : ∀ critical warning, config.thresholds.lookup original.name = some (.bands critical warning) →
    p.thresholds = ⟨critical, warning⟩

/-- The entries under the names of built-in analyzers. -/
def knownEntries {β : Type} (entries : List (String × β)) : List (String × β) :=
  entries.filter fun e => AnalyzerName.all.contains e.1

theorem lookup_knownEntries {β : Type} {name : String} (hname : name ∈ AnalyzerName.all)
    (entries : List (String × β)) : (knownEntries entries).lookup name = entries.lookup name := by
  induction entries with
  | nil => rfl
  | cons e rest ih =>
    obtain ⟨other, value⟩ := e
    rw [knownEntries, List.filter_cons]
    split
    · rw [List.lookup_cons, List.lookup_cons]
      exact congrArg (fun found => bif name == other then some value else found) ih
    · next hunknown =>
      have hne : (name == other) = false :=
        beq_false_of_ne fun heq => hunknown (List.contains_iff_mem.mpr (heq ▸ hname))
      rw [List.lookup_cons, hne]
      exact ih

theorem mem_of_lookup_eq_some {β : Type} {entries : List (String × β)} {name : String} {value : β}
    (h : entries.lookup name = some value) : (name, value) ∈ entries := by
  obtain ⟨before, after, rfl, -⟩ := List.lookup_eq_some_iff.mp h
  exact List.mem_append_right before List.mem_cons_self

section Profiles

variable {config : Config Float} {d : Profile Float} {p : Rat}

theorem name_mem_of_mem_builtIn : ∀ d ∈ (Profiles.builtIn : Profiles Float), d.name ∈ AnalyzerName.all := by
  simp only [Profiles.builtIn, List.forall_mem_cons]
  decide

/-- The built-in profiles are fit for use as they are, with whole numbers for thresholds. -/
theorem isSound_of_mem_builtIn : ∀ d ∈ (Profiles.builtIn : Profiles Float),
    d.IsSound ∧ ∃ p, Denotes d.thresholds.critical p := by
  have hbanded : ∀ c w : Nat, c ≤ w → w ≤ 100 →
      (⟨Measure.ofNat c, Measure.ofNat w⟩ : Thresholds Float).IsBanded := fun c w hle hhigh =>
    Thresholds.isBanded_of_denotes (denotes_ofNat_of_lt (by omega)) (denotes_ofNat_of_lt (by omega))
      (by exact_mod_cast hle) (by exact_mod_cast hhigh)
  have hsound : ∀ (d : Profile Float) (c w : Nat), d.thresholds = ⟨Measure.ofNat c, Measure.ofNat w⟩ →
      c ≤ w → w ≤ 100 → d.weight.isFinite = true → 0 < d.weight →
        d.IsSound ∧ ∃ p, Denotes d.thresholds.critical p := by
    intro d c w hthresholds hle hhigh hfinite hpos
    have hcritical : Denotes (Measure.ofNat c) c := denotes_ofNat_of_lt (by omega)
    exact ⟨⟨hfinite, hpos, hthresholds ▸ hbanded c w hle hhigh⟩, c, by rw [hthresholds]; exact hcritical⟩
  simp only [Profiles.builtIn, List.forall_mem_cons]
  refine ⟨hsound _ 60 80 rfl ?_ ?_ ?_ ?_, hsound _ 50 75 rfl ?_ ?_ ?_ ?_, hsound _ 50 75 rfl ?_ ?_ ?_ ?_,
    hsound _ 50 80 rfl ?_ ?_ ?_ ?_, hsound _ 50 75 rfl ?_ ?_ ?_ ?_, List.forall_mem_nil _⟩
  all_goals decide +kernel

theorem isConfigured_configure (hvalid : config.validate = .ok ()) (hcritical : Denotes d.thresholds.critical p) :
    d.IsConfigured config (Profiles.configure config d) := by
  obtain ⟨-, -, hthresholds, -⟩ := Config.validate_eq_ok_iff.mp hvalid
  have hchange : ∀ found, config.thresholds.lookup d.name = found →
      (Profiles.configure config d).thresholds = found.elim d.thresholds d.thresholds.change := by
    rintro _ rfl
    rfl
  exact {
    name_eq := rfl
    rawScore?_eq := rfl
    rawSummary?_eq := rfl
    eq_original := fun hweight hthreshold => by rw [Profiles.configure, hweight, hthreshold]; rfl
    weight_eq := rfl
    thresholds_eq := hchange none
    warning_eq := fun value hlookup => by
      have hvalue := hthresholds _ (mem_of_lookup_eq_some hlookup)
      rw [checkThreshold] at hvalue
      split at hvalue
      case isFalse => contradiction
      case isTrue hpercentage =>
        obtain ⟨q, -, hvalue⟩ := exists_denotes_of_isPercentage hpercentage
        rw [hchange _ hlookup]
        exact ⟨rfl, isLesser_least hcritical hvalue⟩
    bands_eq := fun critical warning => hchange (some (.bands critical warning)) }

theorem isSound_configure (hvalid : config.validate = .ok ()) (hsound : d.IsSound)
    (hcritical : Denotes d.thresholds.critical p) : (Profiles.configure config d).IsSound := by
  obtain ⟨-, hweights, hthresholds, -⟩ := Config.validate_eq_ok_iff.mp hvalid
  have hconfigured := isConfigured_configure hvalid hcritical
  have hweight : (Profiles.configure config d).weight.isFinite = true ∧ 0 < (Profiles.configure config d).weight := by
    rw [hconfigured.weight_eq]
    cases hlookup : config.weights.lookup d.name with
    | none => exact ⟨hsound.isFinite, hsound.weight_pos⟩
    | some weight =>
      rw [Option.getD_some]
      exact isFinite_and_pos_of_checkWeight (hweights (_, weight) (mem_of_lookup_eq_some hlookup))
  refine ⟨hweight.1, hweight.2, ?_⟩
  cases hlookup : config.thresholds.lookup d.name with
  | none =>
    rw [hconfigured.thresholds_eq hlookup]
    exact hsound.isBanded
  | some setting =>
    have hchange : (Profiles.configure config d).thresholds = d.thresholds.change setting := by
      rw [Profiles.configure, hlookup]
      rfl
    rw [hchange]
    exact Thresholds.isBanded_change hcritical (hthresholds (_, setting) (mem_of_lookup_eq_some hlookup))

end Profiles

/-- **The profiles of a valid configuration.** They are the built-in profiles in their order, each changed by the
entries under its name only, and fit for use. -/
theorem isWellFormed_ofConfig {config : Config Float} (hvalid : config.validate = .ok ()) :
    (Profiles.ofConfig config).map (·.name) = AnalyzerName.all ∧
      List.Forall₂ (Profile.IsConfigured config) Profiles.builtIn (Profiles.ofConfig config) ∧
      (∀ p ∈ Profiles.ofConfig config, p.IsSound) ∧
      ∀ other : Config Float, knownEntries other.weights = knownEntries config.weights →
        knownEntries other.thresholds = knownEntries config.thresholds →
          Profiles.ofConfig other = Profiles.ofConfig config := by
  refine ⟨rfl, ?_, ?_, fun other hweights hthresholds => ?_⟩
  · rw [Profiles.ofConfig, List.forall₂_map_right_iff, List.forall₂_same]
    intro d hd
    obtain ⟨-, p, hcritical⟩ := isSound_of_mem_builtIn d hd
    exact isConfigured_configure hvalid hcritical
  · refine List.forall_mem_map.mpr fun d hd => ?_
    obtain ⟨hsound, p, hcritical⟩ := isSound_of_mem_builtIn d hd
    exact isSound_configure hvalid hsound hcritical
  · refine List.map_congr_left fun d hd => ?_
    have hname := name_mem_of_mem_builtIn d hd
    rw [Profiles.configure, Profiles.configure, ← lookup_knownEntries hname, hweights, lookup_knownEntries hname,
      ← lookup_knownEntries hname other.thresholds, hthresholds, lookup_knownEntries hname]

/-- A weight and thresholds under names of analyzers, and others under names that no analyzer has. -/
def overridingConfig : Config Float where
  excludePaths := []
  weights := [("complexity", 2), ("lint", 1)]
  thresholds := [("duplication", .warning 55), ("lint", .warning 10), ("type-safety", .bands 30 90)]

/-- A warning threshold below the critical one of the profile takes its place as well. The entries for an analyzer that
there is not can be left out. -/
theorem isSound_overridingConfig :
    let known : Config Float := { overridingConfig with
      weights := [("complexity", 2)]
      thresholds := [("duplication", .warning 55), ("type-safety", .bands 30 90)] }
    overridingConfig.validate = .ok () ∧ Profiles.ofConfig known = Profiles.ofConfig overridingConfig ∧
      ∃ p ∈ Profiles.ofConfig overridingConfig, p.name = "duplication" ∧ p.weight = Profile.hundredths 25 ∧
        p.thresholds = ⟨55, 55⟩ ∧ p.IsSound := by
  intro known
  have hvalid : overridingConfig.validate = .ok () := by
    rfl
  obtain ⟨-, hconfigured, hsound, hknown⟩ := isWellFormed_ofConfig hvalid
  refine ⟨hvalid, hknown known (by decide +kernel) (by rfl), ?_⟩
  rw [Profiles.builtIn] at hconfigured
  obtain ⟨p, rest, hp, -, hprofiles⟩ := List.forall₂_cons_left_iff.mp hconfigured
  have hmem : p ∈ Profiles.ofConfig overridingConfig := by
    rw [hprofiles]
    exact List.mem_cons_self
  obtain ⟨hwarning, hcritical⟩ := hp.warning_eq 55 rfl
  have hcritical : p.thresholds.critical = 55 := by
    rcases hcritical with ⟨-, hle⟩ | ⟨heq, -⟩
    · exact absurd hle (by decide +kernel)
    · exact heq
  exact ⟨p, hmem, hp.name_eq, hp.weight_eq, congrArg₂ Thresholds.mk hcritical hwarning, hsound p hmem⟩

end Health

end Checkup
