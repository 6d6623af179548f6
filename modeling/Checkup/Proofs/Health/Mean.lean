import Checkup.Health.Project
import Checkup.Proofs.Number.Measure
import Mathlib.Data.Set.Finite.Lemmas

/-!
# The overall score is a weighted mean

In exact arithmetic and with positive weights, the overall score of a project is the mean by weight of the
scores of its contributions, and 0 if there are none (`overallScore_eq_weightedMean`). The move into the range
from 0 to 100 changes nothing, because a mean lies between the least and the greatest of its scores
(`le_weightedMean`, `weightedMean_le`) and these are in range themselves (`IsContribution.score_nonneg`,
`IsContribution.score_le`).

An analysis fails to contribute in three ways: it has failed or has no findings, no profile has its name, or
the profile of its name does not read its findings (`IsContribution`). In neither way does it leave a trace in
the two sums, whose terms are the contributions alone. So the score depends on them as a multiset, and on
their weights up to a common factor (`overallScore_isMean`).
-/

namespace Checkup.Health

/-! ### Contributions -/

/-- An analysis contributes a summary under a profile: it succeeded and has findings, the profile is the one of
its name, and the profile sums the findings up so. -/
structure IsContribution {α : Type} [Measure α] (profiles : Profiles α) (analysis : Analysis)
    (c : Contribution α) : Prop where
  success : analysis.success = true
  profile_eq : profiles.get? analysis.analyzer = some c.profile
  exists_findings : ∃ findings, analysis.findings = some findings ∧
    c.profile.summarize? findings = some c.summary

section Contributions

variable {α : Type} [Measure α] {profiles : Profiles α} {analysis : Analysis} {c : Contribution α}

theorem result?_eq_some_iff {findings : Findings} :
    analysis.result? = some findings ↔ analysis.success = true ∧ analysis.findings = some findings := by
  rw [Analysis.result?]
  split <;> simp_all

theorem contribution?_eq_some_iff :
    contribution? profiles analysis = some c ↔ IsContribution profiles analysis c := by
  simp only [contribution?, bind, Option.bind_eq_some_iff, pure, result?_eq_some_iff,
    Option.some.injEq]
  constructor
  · rintro ⟨findings, ⟨hsuccess, hfindings⟩, profile, hprofile, summary, hsummary, rfl⟩
    exact ⟨hsuccess, hprofile, findings, hfindings, hsummary⟩
  · rintro ⟨hsuccess, hprofile, findings, hfindings, hsummary⟩
    exact ⟨findings, ⟨hsuccess, hfindings⟩, c.profile, hprofile, c.summary, hsummary, rfl⟩

theorem name_of_contribution?_eq_some (h : contribution? profiles analysis = some c) :
    c.profile.name = analysis.analyzer := by
  have hfound := (contribution?_eq_some_iff.mp h).profile_eq
  simpa using List.find?_some hfound

theorem IsContribution.profile_mem (h : IsContribution profiles analysis c) : c.profile ∈ profiles :=
  List.mem_of_find?_eq_some h.profile_eq

/-- The score of a contribution has been moved into range. -/
theorem IsContribution.exists_score_eq_clamp (h : IsContribution profiles analysis c) :
    ∃ score, c.summary.score = Measure.clamp score := by
  obtain ⟨findings, -, hsummary⟩ := h.exists_findings
  obtain ⟨summary, -, heq⟩ := Option.map_eq_some_iff.mp hsummary
  exact ⟨summary.score, heq ▸ rfl⟩

end Contributions

theorem IsContribution.score_nonneg {profiles : Profiles Rat} {analysis : Analysis}
    {c : Contribution Rat} (h : IsContribution profiles analysis c) : 0 ≤ c.summary.score := by
  obtain ⟨score, heq⟩ := h.exists_score_eq_clamp
  exact heq ▸ Measure.clamp_nonneg score

theorem IsContribution.score_le {profiles : Profiles Rat} {analysis : Analysis}
    {c : Contribution Rat} (h : IsContribution profiles analysis c) : c.summary.score ≤ 100 := by
  obtain ⟨score, heq⟩ := h.exists_score_eq_clamp
  exact heq ▸ Measure.clamp_le score

/-! ### The mean by weight -/

/-- The mean of the scores of some contributions by weight. -/
def weightedMean (cs : List (Contribution Rat)) : Rat :=
  (cs.map fun c => c.profile.weight * c.summary.score).sum / (cs.map fun c => c.profile.weight).sum

section Mean

variable {cs : List (Contribution Rat)}

theorem sum_weight_pos (hpos : ∀ c ∈ cs, 0 < c.profile.weight) (hne : cs ≠ []) :
    0 < (cs.map fun c => c.profile.weight).sum := by
  refine List.sum_pos _ (fun w hw => ?_) (by simpa using hne)
  obtain ⟨c, hc, rfl⟩ := List.mem_map.mp hw
  exact hpos c hc

theorem le_weightedMean (hpos : ∀ c ∈ cs, 0 < c.profile.weight) (hne : cs ≠ []) {least : Rat}
    (hleast : ∀ c ∈ cs, least ≤ c.summary.score) : least ≤ weightedMean cs := by
  rw [weightedMean, le_div_iff₀ (sum_weight_pos hpos hne)]
  calc least * (cs.map fun c => c.profile.weight).sum
      = (cs.map fun c => c.profile.weight * least).sum := by
        rw [List.sum_map_mul_right, mul_comm]
    _ ≤ (cs.map fun c => c.profile.weight * c.summary.score).sum :=
        List.sum_le_sum fun c hc => mul_le_mul_of_nonneg_left (hleast c hc) (hpos c hc).le

theorem weightedMean_le (hpos : ∀ c ∈ cs, 0 < c.profile.weight) (hne : cs ≠ []) {greatest : Rat}
    (hgreatest : ∀ c ∈ cs, c.summary.score ≤ greatest) : weightedMean cs ≤ greatest := by
  rw [weightedMean, div_le_iff₀ (sum_weight_pos hpos hne)]
  calc (cs.map fun c => c.profile.weight * c.summary.score).sum
      ≤ (cs.map fun c => c.profile.weight * greatest).sum :=
        List.sum_le_sum fun c hc => mul_le_mul_of_nonneg_left (hgreatest c hc) (hpos c hc).le
    _ = greatest * (cs.map fun c => c.profile.weight).sum := by
        rw [List.sum_map_mul_right, mul_comm]

theorem weightedMean_nil : weightedMean [] = 0 :=
  div_zero _

theorem weightedMean_perm {ds : List (Contribution Rat)} (h : cs.Perm ds) :
    weightedMean cs = weightedMean ds := by
  rw [weightedMean, weightedMean, (h.map _).sum_eq, (h.map _).sum_eq]

theorem overallScore_eq_ite (cs : List (Contribution Rat)) : overallScore cs =
    if 0 < (cs.map fun c => c.profile.weight).sum then Measure.clamp (weightedMean cs) else 0 := by
  have hterms : weightedMean cs =
      (cs.map fun c => c.summary.score * c.profile.weight).sum /
        (cs.map fun c => c.profile.weight).sum := by
    simp only [weightedMean, mul_comm]
  rw [overallScore, Measure.sum_eq, Measure.sum_eq, hterms]
  simp only [Measure.lt_eq_true_iff]
  rfl

/-- Over contributions with positive weights and scores in range, the overall score is the mean by weight. The
empty mean is 0 as the quotient of two empty sums. -/
theorem overallScore_eq_weightedMean (hpos : ∀ c ∈ cs, 0 < c.profile.weight)
    (hrange : ∀ c ∈ cs, 0 ≤ c.summary.score ∧ c.summary.score ≤ 100) :
    overallScore cs = weightedMean cs := by
  rw [overallScore_eq_ite]
  by_cases hne : cs = []
  · rw [hne, weightedMean_nil]
    exact if_neg (lt_irrefl 0)
  · rw [if_pos (sum_weight_pos hpos hne)]
    exact Measure.clamp_eq_self (le_weightedMean hpos hne fun c hc => (hrange c hc).1)
      (weightedMean_le hpos hne fun c hc => (hrange c hc).2)

end Mean

/-! ### The contributions of a scan -/

section Scan

variable {profiles : Profiles Rat}

/-- The analyses that contribute. -/
def contributing (profiles : Profiles Rat) (analyses : List Analysis) : List Analysis :=
  analyses.filter fun analysis => (contribution? profiles analysis).isSome

/-- What some analyses contribute. -/
def contributions (profiles : Profiles Rat) (analyses : List Analysis) : List (Contribution Rat) :=
  analyses.filterMap (contribution? profiles)

theorem exists_isContribution_of_mem {analyses : List Analysis} {c : Contribution Rat}
    (hc : c ∈ contributions profiles analyses) :
    ∃ analysis ∈ analyses, IsContribution profiles analysis c := by
  obtain ⟨analysis, hmem, hsome⟩ := List.mem_filterMap.mp hc
  exact ⟨analysis, hmem, contribution?_eq_some_iff.mp hsome⟩

theorem contributions_contributing (analyses : List Analysis) :
    contributions profiles (contributing profiles analyses) = contributions profiles analyses := by
  rw [contributions, contributing, List.filterMap_filter]
  refine List.filterMap_congr fun analysis _ => ?_
  cases contribution? profiles analysis <;> rfl

theorem weight_pos_of_mem (hpos : ∀ p ∈ profiles, 0 < p.weight) {analyses : List Analysis} :
    ∀ c ∈ contributions profiles analyses, 0 < c.profile.weight := by
  intro c hc
  obtain ⟨analysis, -, h⟩ := exists_isContribution_of_mem hc
  exact hpos _ h.profile_mem

theorem score_mem_range_of_mem {analyses : List Analysis} :
    ∀ c ∈ contributions profiles analyses, 0 ≤ c.summary.score ∧ c.summary.score ≤ 100 := by
  intro c hc
  obtain ⟨analysis, -, h⟩ := exists_isContribution_of_mem hc
  exact ⟨h.score_nonneg, h.score_le⟩

theorem overallScore_contributions (hpos : ∀ p ∈ profiles, 0 < p.weight) (analyses : List Analysis) :
    overallScore (contributions profiles analyses) =
      weightedMean (contributions profiles analyses) :=
  overallScore_eq_weightedMean (weight_pos_of_mem hpos) score_mem_range_of_mem

/-- The profile with its weight multiplied by a factor. -/
def Profile.scaled (factor : Rat) (p : Profile Rat) : Profile Rat :=
  { p with weight := factor * p.weight }

@[simp]
theorem Profile.summarize?_scaled (factor : Rat) (p : Profile Rat) (findings : Findings) :
    (p.scaled factor).summarize? findings = p.summarize? findings :=
  rfl

/-- The contribution with its weight multiplied by a factor. -/
def Contribution.scaled (factor : Rat) (c : Contribution Rat) : Contribution Rat :=
  { c with profile := c.profile.scaled factor }

/-- Weights play no part in who contributes and what. -/
theorem contribution?_map_scaled (factor : Rat) (analysis : Analysis) :
    contribution? (profiles.map (Profile.scaled factor)) analysis =
      (contribution? profiles analysis).map (Contribution.scaled factor) := by
  have hget : Profiles.get? analysis.analyzer (profiles.map (Profile.scaled factor)) =
      (Profiles.get? analysis.analyzer profiles).map (Profile.scaled factor) := by
    rw [Profiles.get?, List.find?_map]
    rfl
  rw [contribution?, contribution?, hget]
  cases analysis.result? with
  | none => rfl
  | some findings =>
    cases Profiles.get? analysis.analyzer profiles with
    | none => rfl
    | some profile =>
      simp only [Option.map_some, bind, Option.bind_some, Profile.summarize?_scaled]
      cases profile.summarize? findings <;> rfl

theorem contributions_map_scaled (factor : Rat) (analyses : List Analysis) :
    contributions (profiles.map (Profile.scaled factor)) analyses =
      (contributions profiles analyses).map (Contribution.scaled factor) := by
  rw [contributions, contributions, List.map_filterMap]
  exact List.filterMap_congr fun analysis _ => contribution?_map_scaled factor analysis

/-- A common factor of the weights cancels. -/
theorem weightedMean_map_scaled {factor : Rat} (hfactor : factor ≠ 0)
    (cs : List (Contribution Rat)) :
    weightedMean (cs.map (Contribution.scaled factor)) = weightedMean cs := by
  have hterms : ((cs.map (Contribution.scaled factor)).map fun c =>
      c.profile.weight * c.summary.score) =
        cs.map fun c => factor * (c.profile.weight * c.summary.score) := by
    rw [List.map_map]
    exact List.map_congr_left fun c _ => mul_assoc _ _ _
  have hweights : ((cs.map (Contribution.scaled factor)).map fun c => c.profile.weight) =
      cs.map fun c => factor * c.profile.weight := by
    rw [List.map_map]
    rfl
  rw [weightedMean, hterms, hweights, List.sum_map_mul_left, List.sum_map_mul_left,
    mul_div_mul_left _ _ hfactor, weightedMean]

/-- A number is the mean by weight of the scores of some contributions: 0 if there are none, else the sum of
the scores times their weights over the sum of the weights. It lies between the least and the greatest of the
scores, and so in range. -/
structure IsMean (cs : List (Contribution Rat)) (x : Rat) : Prop where
  eq_zero : cs = [] → x = 0
  eq_div : cs ≠ [] → x = (cs.map fun c => c.profile.weight * c.summary.score).sum /
    (cs.map fun c => c.profile.weight).sum
  between : cs ≠ [] → ∃ least ∈ cs, ∃ greatest ∈ cs,
    (∀ c ∈ cs, least.summary.score ≤ c.summary.score ∧ c.summary.score ≤ greatest.summary.score) ∧
      least.summary.score ≤ x ∧ x ≤ greatest.summary.score
  nonneg : 0 ≤ x
  le_hundred : x ≤ 100

theorem isMean_weightedMean {cs : List (Contribution Rat)} (hpos : ∀ c ∈ cs, 0 < c.profile.weight)
    (hrange : ∀ c ∈ cs, 0 ≤ c.summary.score ∧ c.summary.score ≤ 100) :
    IsMean cs (weightedMean cs) := by
  by_cases hne : cs = []
  · rw [hne, weightedMean_nil]
    exact ⟨fun _ => rfl, fun h => absurd rfl h, fun h => absurd rfl h, le_refl 0, by decide⟩
  · obtain ⟨least, hleast, hle⟩ := Set.exists_min_image {c | c ∈ cs} (·.summary.score)
      (List.finite_toSet cs) (List.exists_mem_of_ne_nil cs hne)
    obtain ⟨greatest, hgreatest, hge⟩ := Set.exists_max_image {c | c ∈ cs} (·.summary.score)
      (List.finite_toSet cs) (List.exists_mem_of_ne_nil cs hne)
    refine ⟨fun h => absurd h hne, fun _ => rfl, fun _ => ⟨least, hleast, greatest, hgreatest,
      fun c hc => ⟨hle c hc, hge c hc⟩, le_weightedMean hpos hne hle,
      weightedMean_le hpos hne hge⟩, ?_, ?_⟩
    · exact le_weightedMean hpos hne fun c hc => (hrange c hc).1
    · exact weightedMean_le hpos hne fun c hc => (hrange c hc).2

/-- **The overall score is the mean by weight.** The contributions are those of the analyses that succeeded
with findings that the profile of their name reads. The score is their mean by weight; it is the same for a
scan with the same analyses in another order, for one with other analyses that do not contribute put in or
left out, and with all weights multiplied by one positive factor. -/
theorem overallScore_isMean (hpos : ∀ p ∈ profiles, 0 < p.weight) (scan : Workspace.ProjectScan) :
    (∀ analysis c, contribution? profiles analysis = some c ↔
      IsContribution profiles analysis c) ∧
    IsMean (scan.analyses.filterMap (contribution? profiles))
      (ProjectReport.ofScan profiles scan).overallScore ∧
    (∀ other : Workspace.ProjectScan, other.analyses.Perm scan.analyses →
      (ProjectReport.ofScan profiles other).overallScore =
        (ProjectReport.ofScan profiles scan).overallScore) ∧
    (∀ other : Workspace.ProjectScan,
      contributing profiles other.analyses = contributing profiles scan.analyses →
        (ProjectReport.ofScan profiles other).overallScore =
          (ProjectReport.ofScan profiles scan).overallScore) ∧
    ∀ factor > 0, (ProjectReport.ofScan (profiles.map (Profile.scaled factor)) scan).overallScore =
      (ProjectReport.ofScan profiles scan).overallScore := by
  have hmean : ∀ other : Workspace.ProjectScan,
      (ProjectReport.ofScan profiles other).overallScore =
        weightedMean (contributions profiles other.analyses) :=
    fun other => overallScore_contributions hpos other.analyses
  refine ⟨fun _ _ => contribution?_eq_some_iff, ?_, fun other h => ?_, fun other h => ?_,
    fun factor hfactor => ?_⟩
  · rw [hmean]
    exact isMean_weightedMean (weight_pos_of_mem hpos) score_mem_range_of_mem
  · rw [hmean, hmean]
    exact weightedMean_perm (h.filterMap _)
  · rw [hmean, hmean, ← contributions_contributing, h, contributions_contributing]
  · have hpos' : ∀ p ∈ profiles.map (Profile.scaled factor), 0 < p.weight := by
      intro p hp
      obtain ⟨q, hq, rfl⟩ := List.mem_map.mp hp
      exact mul_pos hfactor (hpos q hq)
    rw [hmean, ← weightedMean_map_scaled (ne_of_gt hfactor), ← contributions_map_scaled]
    exact overallScore_contributions hpos' scan.analyses

end Scan

/-- A project with a tenth of its lines duplicated and two of five files too complex. The other analyses do
not contribute: there is no profile of linters, the one of dependencies does not read complexities, and the
last has failed. -/
def mixedScan : Workspace.ProjectScan where
  project := ⟨"ui", .library, "libs/ui"⟩
  analyses :=
    let files := [⟨"a.ts", 3, 20⟩, ⟨"b.ts", 25, 20⟩, ⟨"c.ts", 3, 20⟩, ⟨"d.ts", 3, 20⟩, ⟨"e.ts", 25, 20⟩]
    let duplicate := ⟨"a.ts", "b.ts", ⟨1, 5⟩, ⟨1, 5⟩, 5, ""⟩
    [.succeeded "duplication" (.duplication ⟨[duplicate], 5, 100, 10, []⟩),
      .succeeded "lint" (.complexity ⟨files, 20, []⟩),
      .succeeded "dependency" (.complexity ⟨files, 20, []⟩),
      .succeeded "complexity" (.complexity ⟨files, 20, []⟩),
      .failed "type-safety" ["boom"]]

/-- The two contributions weigh the same, so the score is half of 80 and 60. -/
theorem overallScore_mixedScan :
    (∀ p ∈ (Profiles.builtIn : Profiles Rat), 0 < p.weight) ∧
      (ProjectReport.ofScan Profiles.builtIn mixedScan).overallScore = (70 : Rat) := by
  have hpos : ∀ p ∈ (Profiles.builtIn : Profiles Rat), 0 < p.weight := by decide +kernel
  have hsome : mixedScan.analyses.filterMap (contribution? (Profiles.builtIn : Profiles Rat)) ≠ [] :=
    List.ne_nil_of_length_pos (by decide +kernel)
  refine ⟨hpos, ?_⟩
  rw [(overallScore_isMean hpos mixedScan).2.1.eq_div hsome]
  decide +kernel

end Checkup.Health
