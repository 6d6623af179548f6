import Checkup.Proofs.Health.RoundTrip
import Checkup.Proofs.Number.Range

/-!
# The numbers of a report are finite

What is not finite has no numeral, so a report could be saved and not be loaded again. No scan makes such a
report, as long as what it counts are words (`WorkspaceReport.isFinite_ofOutcome`).

* **Scores** — the score of a summary and that of a project have been moved into the range from 0 to 100, and
  this makes every double finite. So the weights do not matter here.
* **Figures** — they are counts, and shares and means of counts. The divisor is never 0 where there is a
  quotient.
* **The mean score** — the sum of any number of scores is finite, and so is its quotient.
-/

namespace Checkup

open Checkup.Number

/-- The numbers that findings hold, and the lengths of their lists. -/
def Findings.counts : Findings → List Nat
  | .duplication found => [found.duplicates.length, found.filesScanned, found.totalLines, found.duplicatedLines]
  | .complexity found => found.files.length :: found.files.map (·.complexity)
  | .dependency found => [found.entries.length, found.outdated.length]
  | .bundleSize found => found.assets.length :: found.totalBytes :: found.budgetBytes :: found.assets.map (·.bytes)
  | .typeSafety found => [found.escapes.length, found.filesScanned, found.totalLines]

/-- The number of projects in an outcome, and what was counted in them. -/
def Workspace.Outcome.counts (outcome : Outcome) : List Nat :=
  outcome.projects.length :: outcome.projects.flatMap fun scan => scan.analyses.flatMap fun analysis =>
    analysis.findings.toList.flatMap Findings.counts

/-! ### Figures -/

theorem isFinite_ofNat {n : Nat} (hn : n < Word.size) : (Measure.ofNat n : Float).isFinite = true :=
  (isUpTo_ofNat hn).isFinite

theorem Duplication.Findings.isFinite_metrics {f : Duplication.Findings}
    (h : ∀ n ∈ (Findings.duplication f).counts, n < Word.size) :
    ∀ metric ∈ (f.summary : Health.Summary Float).metrics, metric.2.isFinite = true := by
  simp only [Findings.counts, List.forall_mem_cons] at h
  obtain ⟨hduplicates, hfiles, htotal, hduplicated, -⟩ := h
  have hpercentage : (f.percentage : Float).isFinite = true := by
    rw [percentage]
    split
    · exact isFinite_ofNat (by decide)
    · have hshare := (isUpTo_ofNat hduplicated).div_ofNat (by norm_num) (by omega) htotal
      exact (hshare.mul (isUpTo_ofNat (by decide)) (by norm_num)).isFinite
  simp only [summary, List.forall_mem_cons]
  exact ⟨isFinite_ofNat hduplicated, hpercentage, isFinite_ofNat hfiles, isFinite_ofNat hduplicates,
    isFinite_ofNat htotal, List.forall_mem_nil _⟩

theorem Complexity.Findings.isFinite_metrics {f : Complexity.Findings}
    (h : ∀ n ∈ (Findings.complexity f).counts, n < Word.size) :
    ∀ metric ∈ (f.summary : Health.Summary Float).metrics, metric.2.isFinite = true := by
  simp only [Findings.counts, List.forall_mem_cons] at h
  obtain ⟨hfiles, hcomplexities⟩ := h
  have haverage : (f.average : Float).isFinite = true := by
    rw [average]
    split
    · exact isFinite_ofNat (by decide)
    · next hsome =>
      have hterms : ∀ x ∈ f.files.map fun file => (Measure.ofNat file.complexity : Float), IsUpTo 64 x :=
        List.forall_mem_map.mpr fun file hfile => isUpTo_ofNat (hcomplexities _ (List.mem_map_of_mem hfile))
      have hpos : 0 < f.files.length := List.length_pos_iff.mpr (by simpa using hsome)
      exact ((isUpTo_sum (by norm_num) hterms).div_ofNat (by norm_num) hpos hfiles).isFinite
  have hover : f.overLimit.length < Word.size := (List.length_filter_le _ _).trans_lt hfiles
  have hgreatest : f.greatest < Word.size := by
    have hle : f.greatest ≤ Word.size - 1 := by
      rw [greatest, List.foldl_eq_foldr]
      exact List.max_le_of_forall_le _ _ fun n hn => Nat.le_sub_one_of_lt (hcomplexities n hn)
    exact hle.trans_lt (by decide)
  simp only [summary, List.forall_mem_cons]
  exact ⟨haverage, isFinite_ofNat hfiles, isFinite_ofNat hover, isFinite_ofNat hgreatest, List.forall_mem_nil _⟩

theorem Dependency.Findings.isFinite_metrics {f : Dependency.Findings}
    (h : ∀ n ∈ (Findings.dependency f).counts, n < Word.size) :
    ∀ metric ∈ (f.summary : Health.Summary Float).metrics, metric.2.isFinite = true := by
  simp only [Findings.counts, List.forall_mem_cons] at h
  obtain ⟨hentries, houtdated, -⟩ := h
  have hfilter : ∀ p : Dependency.Entry → Bool,
      (Measure.ofNat (f.entries.filter p).length : Float).isFinite = true := fun p =>
    isFinite_ofNat ((List.length_filter_le _ _).trans_lt hentries)
  simp only [summary, List.forall_mem_append, List.forall_mem_cons]
  refine ⟨⟨⟨hfilter _, hfilter _, List.forall_mem_nil _⟩, ?_⟩, hfilter _, List.forall_mem_nil _⟩
  split
  · exact List.forall_mem_singleton.mpr (isFinite_ofNat houtdated)
  · exact List.forall_mem_nil _

theorem Assets.Findings.isFinite_metrics {f : Assets.Findings}
    (h : ∀ n ∈ (Findings.bundleSize f).counts, n < Word.size) :
    ∀ metric ∈ (f.summary : Health.Summary Float).metrics, metric.2.isFinite = true := by
  simp only [Findings.counts, List.forall_mem_cons] at h
  obtain ⟨hassets, htotal, hbudget, hsizes⟩ := h
  have hlargest : (f.largest?.map (·.bytes)).getD 0 < Word.size := by
    rw [largest?]
    cases hhead : f.assets.head? with
    | none => decide
    | some asset => exact hsizes _ (List.mem_map_of_mem (List.mem_of_mem_head? hhead))
  simp only [summary, List.forall_mem_cons]
  exact ⟨isFinite_ofNat hassets, isFinite_ofNat hbudget, isFinite_ofNat hlargest, isFinite_ofNat htotal,
    List.forall_mem_nil _⟩

theorem Escapes.Findings.isFinite_metrics {f : Escapes.Findings}
    (h : ∀ n ∈ (Findings.typeSafety f).counts, n < Word.size) :
    ∀ metric ∈ (f.summary : Health.Summary Float).metrics, metric.2.isFinite = true := by
  simp only [Findings.counts, List.forall_mem_cons] at h
  obtain ⟨hescapes, hfiles, htotal, -⟩ := h
  have hdensity : (f.density : Float).isFinite = true := by
    rw [density]
    split
    · exact isFinite_ofNat (by decide)
    · have hthousands := (isUpTo_ofNat hescapes).mul (isUpTo_ofNat (n := 1000) (by decide)) (by norm_num)
      exact (hthousands.div_ofNat (by norm_num) (by omega) htotal).isFinite
  have hkind : ∀ kind, (Measure.ofNat (f.count kind) : Float).isFinite = true :=
    fun kind => isFinite_ofNat ((List.length_filter_le _ _).trans_lt hescapes)
  simp only [summary, List.forall_mem_cons]
  exact ⟨isFinite_ofNat hescapes, hdensity, hkind _, isFinite_ofNat hfiles, hkind _, hkind _, hkind _,
    isFinite_ofNat htotal, hkind _, List.forall_mem_nil _⟩

namespace Health

/-- A profile whose figures are finite if what was counted are words. -/
def Profile.IsFinite (p : Profile Float) : Prop :=
  ∀ findings s, p.rawSummary? findings = some s → (∀ n ∈ findings.counts, n < Word.size) →
    ∀ metric ∈ s.metrics, metric.2.isFinite = true

theorem Profiles.isFinite_of_mem_builtIn : ∀ p ∈ (Profiles.builtIn : Profiles Float), p.IsFinite := by
  simp only [Profiles.builtIn, List.forall_mem_cons]
  refine ⟨?_, ?_, ?_, ?_, ?_, List.forall_mem_nil _⟩
  all_goals
    intro findings s h
    cases findings <;> try contradiction
    obtain rfl := Option.some.inj h
  · exact Duplication.Findings.isFinite_metrics
  · exact Complexity.Findings.isFinite_metrics
  · exact Dependency.Findings.isFinite_metrics
  · exact Assets.Findings.isFinite_metrics
  · exact Escapes.Findings.isFinite_metrics

theorem Profiles.isFinite_of_mem_ofConfig {config : Config Float} : ∀ p ∈ Profiles.ofConfig config, p.IsFinite := by
  intro p hp
  obtain ⟨q, hq, rfl⟩ := List.mem_map.mp hp
  exact isFinite_of_mem_builtIn q hq

/-! ### Reports -/

theorem isUpTo_overallScore (contributions : List (Contribution Float)) :
    IsUpTo 7 (overallScore contributions) := by
  rw [overallScore]
  split
  · exact isUpTo_clamp _
  · exact isUpTo_zero 7

theorem IsContribution.isFinite {profiles : Profiles Float} {analysis : Analysis} {c : Contribution Float}
    (hc : IsContribution profiles analysis c) (hprofiles : ∀ p ∈ profiles, p.IsFinite)
    (hcounts : ∀ findings ∈ analysis.findings, ∀ n ∈ findings.counts, n < Word.size) :
    ∀ x ∈ c.summary.floats, x.isFinite = true := by
  obtain ⟨findings, hfindings, hsummary⟩ := hc.exists_findings
  obtain ⟨summary, hraw, heq⟩ := Option.map_eq_some_iff.mp hsummary
  rw [← heq, Summary.floats, List.forall_mem_cons, List.forall_mem_map]
  exact ⟨(isUpTo_clamp _).isFinite, hprofiles _ hc.profile_mem findings summary hraw (hcounts findings hfindings)⟩

theorem ProjectReport.isFinite_ofScan {profiles : Profiles Float} (hprofiles : ∀ p ∈ profiles, p.IsFinite)
    {scan : Workspace.ProjectScan}
    (hcounts : ∀ analysis ∈ scan.analyses, ∀ findings ∈ analysis.findings, ∀ n ∈ findings.counts, n < Word.size) :
    ∀ x ∈ (ProjectReport.ofScan profiles scan).floats, x.isFinite = true := by
  rw [ProjectReport.floats, List.forall_mem_cons, List.forall_mem_flatMap]
  refine ⟨(isUpTo_overallScore _).isFinite, fun s hs => ?_⟩
  obtain ⟨c, hc, rfl⟩ := List.mem_map.mp (Entries.merge_subset _ hs)
  obtain ⟨analysis, hanalysis, hcontribution⟩ := List.mem_filterMap.mp hc
  exact (contribution?_eq_some_iff.mp hcontribution).isFinite hprofiles (hcounts analysis hanalysis)

theorem isFinite_meanScore {reports : List (ProjectReport Float)} (hlength : reports.length < Word.size)
    (hscores : ∀ r ∈ reports, IsUpTo 7 r.overallScore) : (meanScore reports).isFinite = true := by
  rw [meanScore]
  split
  · exact isFinite_ofNat (by decide)
  · next hsome =>
    have hpos : 0 < reports.length := List.length_pos_iff.mpr (by simpa using hsome)
    exact ((isUpTo_sum (by norm_num) (List.forall_mem_map.mpr hscores)).div_ofNat (by norm_num) hpos
      hlength).isFinite

/-- **No number of a report is infinite or none.** The report on the outcome of a scan, by the profiles of any
configuration, has finite doubles only, if what was counted are words. -/
theorem WorkspaceReport.isFinite_ofOutcome {config : Config Float} {previous : Option Float}
    {timestamp : Time.Timestamp} {outcome : Workspace.Outcome} (hcounts : ∀ n ∈ outcome.counts, n < Word.size) :
    ∀ x ∈ (ofOutcome (.ofConfig config) previous timestamp outcome).floats, x.isFinite = true := by
  simp only [Workspace.Outcome.counts, List.forall_mem_cons, List.forall_mem_flatMap] at hcounts
  obtain ⟨hlength, hfound⟩ := hcounts
  rw [WorkspaceReport.floats, List.forall_mem_cons, List.forall_mem_flatMap]
  refine ⟨isFinite_meanScore ?_ (List.forall_mem_map.mpr fun scan _ => isUpTo_overallScore _),
    List.forall_mem_map.mpr fun scan hscan => ?_⟩
  · rwa [List.length_map]
  · refine ProjectReport.isFinite_ofScan Profiles.isFinite_of_mem_ofConfig ?_
    intro analysis hanalysis findings hfindings
    exact hfound scan hscan analysis hanalysis findings (Option.mem_toList.mpr hfindings)

end Health

end Checkup
