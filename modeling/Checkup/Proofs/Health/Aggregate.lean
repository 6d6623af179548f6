import Checkup.Proofs.Health.Recommendation

/-!
# The report on a workspace

The report on the outcome of a scan aggregates the reports on its projects (`IsAggregate`). In exact arithmetic, and
for outcomes that list projects in strictly ascending order of names:

* **The score** is the mean of the overall scores (`isAverage_meanScore`). A bound on all scores is a bound on their
  mean (`le_average`, `average_le`). So a low mean forces a low score (`exists_lt_of_average_lt`), and a workspace
  with a failing mean has a failing project if it has any (`hasFailures_iff_of_failing`).
* **Critical issues** are counted under the analyzers that have a summary in some project, each with the issues of
  all its summaries (`mem_criticalCounts_iff`).
* **Recommendations** are made for the profiles by which more than a third of the projects do badly, in the order of
  the profiles (`forall₂_widespread?`). A project does badly by a profile if it has a summary under its name that
  scores below the warning threshold (`IsBelowWarning`). A project without one is still one of the projects, and a
  project that could not be scanned is none. The summaries of a project have different names, so the one that is
  looked up is the only one (`affectedProjects_eq`).
-/

namespace Checkup.Health

/-! ### The mean of scores -/

/-- A number is the mean of some scores: 0 if there are none, else their sum over their number. It lies between the
least and the greatest of them. -/
structure IsAverage (scores : List Rat) (x : Rat) : Prop where
  eq_zero : scores = [] → x = 0
  eq_div : scores ≠ [] → x = scores.sum / scores.length
  between : scores ≠ [] → ∃ least ∈ scores, ∃ greatest ∈ scores,
    (∀ score ∈ scores, least ≤ score ∧ score ≤ greatest) ∧ least ≤ x ∧ x ≤ greatest

section Mean

variable {scores : List Rat}

theorem le_average (hne : scores ≠ []) {least : Rat} (h : ∀ score ∈ scores, least ≤ score) :
    least ≤ scores.sum / scores.length := by
  have hpos : (0 : Rat) < scores.length := Nat.cast_pos.mpr (List.length_pos_iff.mpr hne)
  rw [le_div_iff₀ hpos, mul_comm, ← nsmul_eq_mul]
  exact List.card_nsmul_le_sum scores least h

theorem average_le (hne : scores ≠ []) {greatest : Rat} (h : ∀ score ∈ scores, score ≤ greatest) :
    scores.sum / scores.length ≤ greatest := by
  have hpos : (0 : Rat) < scores.length := Nat.cast_pos.mpr (List.length_pos_iff.mpr hne)
  rw [div_le_iff₀ hpos, mul_comm, ← nsmul_eq_mul]
  exact List.sum_le_card_nsmul scores greatest h

/-- A low mean forces a low score. -/
theorem exists_lt_of_average_lt (hne : scores ≠ []) {bound : Rat} (h : scores.sum / scores.length < bound) :
    ∃ score ∈ scores, score < bound := by
  by_contra hnone
  have hbound : ∀ score ∈ scores, bound ≤ score := fun score hscore =>
    not_lt.mp fun hlt => hnone ⟨score, hscore, hlt⟩
  exact absurd h (not_lt.mpr (le_average hne hbound))

theorem meanScore_eq_average (reports : List (ProjectReport Rat)) :
    meanScore reports = (reports.map (·.overallScore)).sum / (reports.map (·.overallScore)).length := by
  rw [meanScore, Measure.sum_eq, Measure.ofNat_eq, Measure.ofNat_eq, List.length_map]
  split_ifs with h
  · rw [List.isEmpty_iff.mp h]
    exact (div_zero _).symm
  · rfl

theorem isAverage_meanScore (reports : List (ProjectReport Rat)) :
    IsAverage (reports.map (·.overallScore)) (meanScore reports) := by
  rw [meanScore_eq_average]
  generalize reports.map (·.overallScore) = scores
  refine ⟨fun h => by simp [h], fun _ => rfl, fun hne => ?_⟩
  obtain ⟨least, hleast, hle⟩ := Set.exists_min_image {s | s ∈ scores} id (List.finite_toSet scores)
    (List.exists_mem_of_ne_nil scores hne)
  obtain ⟨greatest, hgreatest, hge⟩ := Set.exists_max_image {s | s ∈ scores} id (List.finite_toSet scores)
    (List.exists_mem_of_ne_nil scores hne)
  exact ⟨least, hleast, greatest, hgreatest, fun s hs => ⟨hle s hs, hge s hs⟩, le_average hne hle,
    average_le hne hge⟩

end Mean

/-! ### Critical issues by analyzer -/

section CriticalIssues

variable {α : Type} {reports : List (ProjectReport α)} {analyzer : String}

/-- The critical issues under an analyzer in some projects. -/
def criticalIssuesOf (reports : List (ProjectReport α)) (analyzer : String) : List Issue :=
  reports.flatMap fun report => (report.summaries.filter (·.1 = analyzer)).flatMap (·.2.criticalIssues)

theorem criticalCount_eq_length (reports : List (ProjectReport α)) (analyzer : String) :
    criticalCount (reports.flatMap (·.summaries)) analyzer = (criticalIssuesOf reports analyzer).length := by
  have hissues : criticalIssuesOf reports analyzer =
      ((reports.flatMap (·.summaries)).filter (·.1 = analyzer)).flatMap (·.2.criticalIssues) := by
    rw [List.filter_flatMap, List.flatMap_assoc]
    rfl
  rw [hissues, List.length_flatMap, List.sum_eq_foldr]
  rfl

theorem mem_criticalCounts_iff {count : Nat} : (analyzer, count) ∈ criticalCounts reports ↔
    (∃ report ∈ reports, analyzer ∈ report.summaries.map (·.1)) ∧
      count = (criticalIssuesOf reports analyzer).length := by
  have hnames : analyzer ∈ ((reports.flatMap (·.summaries)).map (·.1)).eraseDups ↔
      ∃ report ∈ reports, analyzer ∈ report.summaries.map (·.1) := by
    rw [List.mem_eraseDups, List.map_flatMap, List.mem_flatMap]
  rw [criticalCounts, (Entries.sort_perm _).mem_iff, List.mem_map, ← hnames, ← criticalCount_eq_length]
  simp only [Prod.mk.injEq]
  constructor
  · rintro ⟨name, hname, rfl, rfl⟩
    exact ⟨hname, rfl⟩
  · rintro ⟨hname, rfl⟩
    exact ⟨analyzer, hname, rfl, rfl⟩

theorem pairwise_criticalCounts (reports : List (ProjectReport α)) :
    (criticalCounts reports).Pairwise fun a b => a.1 < b.1 := by
  refine Entries.pairwise_sort ?_
  rw [List.map_map]
  change (List.map id _).Nodup
  rw [List.map_id]
  exact Entries.nodup_eraseDups _

end CriticalIssues

/-! ### Profiles by which many projects do badly -/

section Widespread

/-- A project has a summary under a profile's name that scores below its warning threshold. -/
def IsBelowWarning (profile : Profile Rat) (report : ProjectReport Rat) : Prop :=
  ∃ s ∈ report.summaries, s.1 = profile.name ∧ s.2.score < profile.thresholds.warning

instance (profile : Profile Rat) : DecidablePred (IsBelowWarning profile) :=
  fun _ => inferInstanceAs (Decidable (∃ _ ∈ _, _))

/-- By a profile, more than a third of some projects do badly. -/
def IsWidespread (reports : List (ProjectReport Rat)) (profile : Profile Rat) : Prop :=
  (reports.length : Rat) / 3 < reports.countP (IsBelowWarning profile ·)

instance (reports : List (ProjectReport Rat)) : DecidablePred (IsWidespread reports) :=
  fun _ => inferInstanceAs (Decidable (_ < _))

/-- A recommendation is the one for a profile by which many projects do badly: it is urgent, and names the
projects in ascending order. -/
structure IsWidespreadAdvice (reports : List (ProjectReport Rat)) (profile : Profile Rat)
    (r : Recommendation) : Prop where
  priority_eq : r.priority = .high
  analyzer_eq : r.analyzer = profile.name
  message_eq : r.message =
    let affected := r.projects.length
    s!"widespread {profile.name} issue: {affected} of {reports.length} projects are below the warning threshold"
  mem_projects_iff : ∀ name, name ∈ r.projects ↔
    ∃ report ∈ reports, report.projectName = name ∧ IsBelowWarning profile report
  ascending : r.projects.Pairwise (· < ·)

variable {profile : Profile Rat} {reports : List (ProjectReport Rat)}
  (hkeys : ∀ report ∈ reports, (report.summaries.map (·.1)).Nodup)

include hkeys

/-- Where the summaries of a project have different names, the one that is found under a profile's name is the only
one. -/
theorem affectedProjects_eq (profile : Profile Rat) :
    affectedProjects reports profile = (reports.filter (IsBelowWarning profile ·)).map (·.projectName) := by
  rw [affectedProjects]
  congr 1
  refine List.filter_congr fun report hreport => ?_
  rw [Bool.eq_iff_iff, decide_eq_true_eq, Option.any_eq_true]
  simp only [Entries.lookup_eq_some_iff (hkeys report hreport), Measure.lt_eq_true_iff]
  constructor
  · rintro ⟨summary, hmem, hlt⟩
    exact ⟨_, hmem, rfl, hlt⟩
  · rintro ⟨⟨name, summary⟩, hmem, rfl, hlt⟩
    exact ⟨summary, hmem, hlt⟩

theorem isWidespread_iff :
    IsWidespread reports profile ↔ reports.length < 3 * (affectedProjects reports profile).length := by
  rw [IsWidespread, affectedProjects_eq hkeys, List.length_map, ← List.countP_eq_length_filter,
    div_lt_iff₀ (by decide), mul_comm]
  exact_mod_cast Iff.rfl

theorem isWidespreadAdvice_of_widespread?_eq_some
    (hnames : reports.Pairwise fun r s => r.projectName < s.projectName) {r : Recommendation}
    (h : widespread? reports profile = some r) : IsWidespreadAdvice reports profile r := by
  rw [widespread?] at h
  split_ifs at h
  obtain rfl := Option.some.inj h
  refine ⟨rfl, rfl, rfl, fun name => ?_, ?_⟩
  · rw [affectedProjects_eq hkeys]
    simp only [List.mem_map, List.mem_filter, decide_eq_true_eq]
    constructor
    · rintro ⟨report, ⟨hreport, hbelow⟩, rfl⟩
      exact ⟨report, hreport, rfl, hbelow⟩
    · rintro ⟨report, hreport, rfl, hbelow⟩
      exact ⟨report, ⟨hreport, hbelow⟩, rfl⟩
  · exact List.pairwise_map.mpr (hnames.filter _)

/-- One recommendation is made for each profile by which many projects do badly, and none for another. -/
theorem forall₂_widespread? (hnames : reports.Pairwise fun r s => r.projectName < s.projectName)
    (profiles : Profiles Rat) :
    List.Forall₂ (IsWidespreadAdvice reports) (profiles.filter (IsWidespread reports ·))
      (profiles.filterMap (widespread? reports)) := by
  induction profiles with
  | nil => exact .nil
  | cons profile rest ih =>
    by_cases h : IsWidespread reports profile
    · rw [List.filter_cons, if_pos (decide_eq_true h)]
      have hcount := (isWidespread_iff hkeys).mp h
      obtain ⟨r, hr⟩ : ∃ r, widespread? reports profile = some r := by
        rw [widespread?, if_pos hcount]
        exact ⟨_, rfl⟩
      rw [List.filterMap_cons_some hr]
      exact .cons (isWidespreadAdvice_of_widespread?_eq_some hkeys hnames hr) ih
    · rw [List.filter_cons, if_neg (mt of_decide_eq_true h)]
      rw [isWidespread_iff hkeys] at h
      have hnone : widespread? reports profile = none := by
        rw [widespread?, if_neg h]
      rw [List.filterMap_cons_none hnone]
      exact ih

end Widespread

/-! ### The report on a workspace -/

section Workspace

variable {outcome : Workspace.Outcome}

/-- A report on a workspace aggregates the reports on the projects that were scanned. -/
structure IsAggregate (profiles : Profiles Rat) (outcome : Workspace.Outcome) (report : WorkspaceReport Rat) :
    Prop where
  /-- There is one report for each project scanned. -/
  projects_eq : List.Forall₂ (fun scan r => r = ProjectReport.ofScan profiles scan ∧
    r.projectName = scan.project.name) outcome.projects report.projects
  projects_ascending : report.projects.Pairwise fun r s => r.projectName < s.projectName
  score_isAverage : IsAverage (report.projects.map (·.overallScore)) report.score
  /-- Critical issues are counted under the analyzers with a summary in some project, each with its total. -/
  mem_criticalIssues_iff : ∀ analyzer count, (analyzer, count) ∈ report.criticalIssues ↔
    (∃ r ∈ report.projects, analyzer ∈ r.summaries.map (·.1)) ∧
      count = (criticalIssuesOf report.projects analyzer).length
  criticalIssues_ascending : report.criticalIssues.Pairwise fun a b => a.1 < b.1
  /-- The recommendations are those for the profiles by which many projects do badly, in their order. -/
  recommendations_forall₂ : List.Forall₂ (IsWidespreadAdvice report.projects)
    (profiles.filter (IsWidespread report.projects ·)) report.recommendations
  isPartial_eq : report.isPartial = outcome.isPartial
  failed_eq : report.failed = outcome.failed

theorem nodup_summaries_ofScan (profiles : Profiles Rat) (scan : Workspace.ProjectScan) :
    ((ProjectReport.ofScan profiles scan).summaries.map (·.1)).Nodup :=
  Entries.nodup_map_fst_merge _

/-- **The report on a workspace** aggregates the reports on its projects, whatever the profiles, the earlier score
and the time. -/
theorem isAggregate_ofOutcome (profiles : Profiles Rat) (previous : Option Rat) (timestamp : Time.Timestamp)
    (hnames : outcome.projects.Pairwise fun x y => x.project.name < y.project.name) :
    IsAggregate profiles outcome (WorkspaceReport.ofOutcome profiles previous timestamp outcome) := by
  have hascending : (outcome.projects.map (ProjectReport.ofScan profiles)).Pairwise
      fun r s => r.projectName < s.projectName := List.pairwise_map.mpr hnames
  have hkeys : ∀ report ∈ outcome.projects.map (ProjectReport.ofScan profiles),
      (report.summaries.map (·.1)).Nodup :=
    List.forall_mem_map.mpr fun scan _ => nodup_summaries_ofScan profiles scan
  exact
    { projects_eq := List.forall₂_map_right_iff.mpr (List.forall₂_same.mpr fun scan _ => ⟨rfl, rfl⟩)
      projects_ascending := hascending
      score_isAverage := isAverage_meanScore _
      mem_criticalIssues_iff := fun _ _ => mem_criticalCounts_iff
      criticalIssues_ascending := pairwise_criticalCounts _
      recommendations_forall₂ := forall₂_widespread? hkeys hascending profiles
      isPartial_eq := rfl
      failed_eq := rfl }

/-! ### Workspaces shown as failing -/

theorem status_overallThresholds_eq_failing_iff {score : Rat} :
    overallThresholds.status score = .failing ↔ score < 50 := by
  have hlt : Measure.lt score overallThresholds.critical = true ↔ score < 50 := Measure.lt_eq_true_iff
  rw [Thresholds.status, ← hlt]
  split_ifs with h <;> simp [h]

/-- A workspace with a failing mean has failures unless it has no projects: some project is as low as the mean, and
is failing itself. -/
theorem hasFailures_iff_of_failing {profiles : Profiles Rat} {report : WorkspaceReport Rat}
    (hscore : IsAverage (report.projects.map (·.overallScore)) report.score)
    (hfailing : overallThresholds.status report.score = .failing) :
    report.hasFailures profiles = true ↔ report.projects ≠ [] := by
  constructor
  · intro hfailures hnone
    rw [WorkspaceReport.hasFailures, hnone] at hfailures
    contradiction
  · intro hne
    have hne : report.projects.map (·.overallScore) ≠ [] := mt List.map_eq_nil_iff.mp hne
    rw [status_overallThresholds_eq_failing_iff, hscore.eq_div hne] at hfailing
    obtain ⟨score, hmem, hlt⟩ := exists_lt_of_average_lt hne hfailing
    obtain ⟨r, hr, rfl⟩ := List.mem_map.mp hmem
    have hstatus : r.status = .failing := status_overallThresholds_eq_failing_iff.mpr hlt
    exact hasFailures_eq_true_iff.mpr (Or.inl ⟨r, hr, hstatus⟩)

end Workspace

/-- Four projects and one that has failed. Two of the four have many duplicates; for one of these, nothing else was
found out. -/
def duplicatedOutcome : Workspace.Outcome where
  projects :=
    let duplicate := ⟨"x.ts", "y.ts", ⟨1, 8⟩, ⟨1, 8⟩, 8, ""⟩
    let duplication (duplicatedLines : Nat) : Analysis :=
      .succeeded "duplication" (.duplication ⟨[duplicate], 5, 100, duplicatedLines, []⟩)
    let complexity : Analysis := .succeeded "complexity" (.complexity ⟨[⟨"a.ts", 3, 20⟩], 20, []⟩)
    [⟨⟨"a", .application, "apps/a"⟩, [duplication 20, .failed "complexity" ["boom"]]⟩,
      ⟨⟨"b", .library, "libs/b"⟩, [duplication 15]⟩,
      ⟨⟨"c", .library, "libs/c"⟩, [duplication 0, complexity]⟩,
      ⟨⟨"d", .library, "libs/d"⟩, [complexity]⟩]
  failed := [⟨"broken", "no project manifest found"⟩]
  isPartial := true

/-- Two of the four projects are more than a third, and the failed one does not count. -/
theorem isAggregate_duplicatedOutcome :
    let profiles : Profiles Rat := .builtIn
    let report := WorkspaceReport.ofOutcome profiles none ⟨0, 0, 0⟩ duplicatedOutcome
    (duplicatedOutcome.projects.Pairwise fun x y => x.project.name < y.project.name) ∧
      IsAggregate profiles duplicatedOutcome report ∧ report.score = 165 / 2 ∧
      report.recommendations = [⟨.high, "duplication",
        "widespread duplication issue: 2 of 4 projects are below the warning threshold", ["a", "b"]⟩] := by
  intro profiles report
  have hnames : duplicatedOutcome.projects.Pairwise fun x y => x.project.name < y.project.name := by decide
  have haggregate : IsAggregate profiles duplicatedOutcome report :=
    isAggregate_ofOutcome profiles none ⟨0, 0, 0⟩ hnames
  refine ⟨hnames, haggregate, ?_, by decide +kernel⟩
  rw [haggregate.score_isAverage.eq_div (List.ne_nil_of_length_pos (by decide +kernel))]
  decide +kernel

end Checkup.Health
