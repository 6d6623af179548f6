import Checkup.Health.Workspace
import Checkup.Proofs.Entries
import Checkup.Proofs.Health.Mean

/-!
# Recommendations, bands and critical issues agree

The bands of scores come up in three places: a project is advised by them, its report knows them by its
profiles, and a workspace fails by them. Critical issues come up in two: each is advised on, and they are
counted by analyzer. In the report on the outcome of a scan these places agree
(`ofOutcome_recommendations_agree`):

* **Within a project** (`IsAdvised`): a summary makes one urgent recommendation for each critical issue and one
  more if it is failing, one of medium urgency if it calls for caution, and no others. The urgent ones come
  first, and those of one priority in the order of the analyses.
* **Over the workspace**: the urgent recommendations are as many as the critical issues that are counted and
  the failing summaries together, and the workspace fails exactly if a project does or a summary.

A project's part rests on `Contribution.countP_recommendations`, which counts what one contribution makes, and
on the analyzers of a project having different names, so that every recommendation tells whose it is
(`filter_analyzer_flatMap`). Sorting by priority is stable (`filter_byPriority`).
-/

namespace Checkup.Health

variable {α : Type}

/-! ### Critical issues by analyzer -/

theorem criticalCount_cons (s : String × Summary α) (rest : List (String × Summary α)) (analyzer : String) :
    criticalCount (s :: rest) analyzer =
      (if s.1 = analyzer then s.2.criticalIssues.length else 0) + criticalCount rest analyzer := by
  by_cases h : s.1 = analyzer <;> simp [criticalCount, h]

/-- The critical issues of one analyzer and those of all others are the critical issues. -/
theorem criticalCount_add_sum (summaries : List (String × Summary α)) (analyzer : String) :
    criticalCount summaries analyzer +
        ((summaries.filter fun s => !s.1 == analyzer).map (·.2.criticalIssues.length)).sum =
      (summaries.map (·.2.criticalIssues.length)).sum := by
  induction summaries with
  | nil => rfl
  | cons s rest ih =>
    rw [criticalCount_cons, List.map_cons, List.sum_cons, ← ih]
    by_cases h : s.1 = analyzer
    · rw [if_pos h, List.filter_cons_of_neg (by simp [h]), Nat.add_assoc]
    · rw [if_neg h, List.filter_cons_of_pos (by simp [h]), List.map_cons, List.sum_cons]
      omega

theorem criticalCount_filter_ne (summaries : List (String × Summary α)) {analyzer other : String}
    (h : analyzer ≠ other) :
    criticalCount (summaries.filter fun s => !s.1 == other) analyzer =
      criticalCount summaries analyzer := by
  induction summaries with
  | nil => rfl
  | cons s rest ih =>
    by_cases hs : s.1 = other
    · have hne : s.1 ≠ analyzer := fun heq => h (heq.symm.trans hs)
      rw [List.filter_cons_of_neg (by simp [hs]), criticalCount_cons, if_neg hne, ih, Nat.zero_add]
    · rw [List.filter_cons_of_pos (by simp [hs]), criticalCount_cons, criticalCount_cons, ih]

/-- Every summary is counted under its own analyzer and no other. -/
theorem sum_map_criticalCount (summaries : List (String × Summary α)) :
    ((summaries.map (·.1)).eraseDups.map (criticalCount summaries)).sum =
      (summaries.map (·.2.criticalIssues.length)).sum := by
  induction hn : summaries.length using Nat.strong_induction_on generalizing summaries with
  | _ n ih =>
    cases summaries with
    | nil => rfl
    | cons s rest =>
      have hshorter : (rest.filter fun t => !t.1 == s.1).length < n := by
        rw [← hn]
        exact Nat.lt_succ_of_le (List.length_filter_le _ rest)
      have hnames : (rest.map (·.1)).filter (fun name => !name == s.1) =
          (rest.filter fun t => !t.1 == s.1).map (·.1) := List.filter_map
      -- the analyzers other than the first have their summaries among those left
      have hcounts : ∀ name ∈ ((rest.filter fun t => !t.1 == s.1).map (·.1)).eraseDups,
          criticalCount (s :: rest) name = criticalCount (rest.filter fun t => !t.1 == s.1) name := by
        intro name hname
        rw [List.mem_eraseDups, ← hnames, List.mem_filter] at hname
        have hne : name ≠ s.1 := by simpa using hname.2
        rw [criticalCount_cons, if_neg hne.symm, Nat.zero_add, criticalCount_filter_ne rest hne]
      rw [List.map_cons, List.eraseDups_cons, hnames, List.map_cons, List.sum_cons,
        List.map_congr_left hcounts, ih _ hshorter _ rfl, criticalCount_cons, if_pos rfl, List.map_cons,
        List.sum_cons, Nat.add_assoc, criticalCount_add_sum]

theorem sum_map_snd_criticalCounts (reports : List (ProjectReport α)) :
    ((criticalCounts reports).map (·.2)).sum =
      ((reports.flatMap (·.summaries)).map (·.2.criticalIssues.length)).sum := by
  rw [criticalCounts, ((Entries.sort_perm _).map _).sum_eq, List.map_map]
  exact sum_map_criticalCount _

variable [Measure α]

/-! ### What is advised -/

/-- The band of a summary by the profile of its analyzer, if there is one. -/
def band? (profiles : Profiles α) (analyzer : String) (summary : Summary α) : Option Status :=
  (profiles.get? analyzer).map fun profile => profile.thresholds.status summary.score

/-- How many recommendations of a priority a summary in a band calls for. -/
def Summary.adviceCount (summary : Summary α) (band : Status) : Priority → Nat
  | .high => summary.criticalIssues.length + if band = .failing then 1 else 0
  | .medium => if band = .caution then 1 else 0
  | .low => 0

/-- The number of recommendations of a priority for an analyzer. -/
def countAdvice (recommendations : List Recommendation) (priority : Priority) (analyzer : String) : Nat :=
  recommendations.countP fun r => r.priority = priority && r.analyzer = analyzer

/-- The place of an analyzer among some analyses. -/
def placeOf (analyses : List Analysis) (analyzer : String) : Nat :=
  (analyses.map (·.analyzer)).idxOf analyzer

/-- The recommendations of a project agree with the summaries of its analyses. -/
structure IsAdvised (profiles : Profiles α) (analyses : List Analysis) (report : ProjectReport α) : Prop where
  /-- The summaries are those of some of the analyses, in their order. -/
  summaries_sublist : (report.summaries.map (·.1)).Sublist (analyses.map (·.analyzer))
  /-- Every summary has a band, and makes as many recommendations of each priority as it calls for in it. -/
  countAdvice_eq : ∀ s ∈ report.summaries, ∃ band, band? profiles s.1 s.2 = some band ∧
    ∀ priority, countAdvice report.recommendations priority s.1 = s.2.adviceCount band priority
  /-- There are no recommendations but those that the summaries make. -/
  analyzer_mem : ∀ r ∈ report.recommendations, r.analyzer ∈ report.summaries.map (·.1)
  /-- The urgent recommendations come first, and those of one priority in the order of the analyses. -/
  ordered : report.recommendations.Pairwise fun r s => r.priority.rank < s.priority.rank ∨
    r.priority = s.priority ∧ placeOf analyses r.analyzer ≤ placeOf analyses s.analyzer

/-- The failing summaries of some reports, by project and analyzer. -/
def failingSummaries (profiles : Profiles α) (reports : List (ProjectReport α)) : List (String × String) :=
  reports.flatMap fun report =>
    (report.summaries.filter fun s => band? profiles s.1 s.2 = some .failing).map fun s =>
      (report.projectName, s.1)

/-! ### One contribution -/

namespace Contribution

variable {c : Contribution α}

theorem analyzer_of_mem_recommendations {r : Recommendation} (h : r ∈ c.recommendations) :
    r.analyzer = c.profile.name := by
  rw [recommendations, List.mem_append, List.mem_map] at h
  rcases h with h | ⟨issue, -, rfl⟩
  · rw [bandRecommendations] at h
    split at h
    · rw [List.mem_singleton.mp h]
    · rw [List.mem_singleton.mp h]
    · exact absurd h List.not_mem_nil
  · rfl

/-- Besides one recommendation for a lower band, a contribution makes one for each critical issue. -/
theorem countP_recommendations (c : Contribution α) (priority : Priority) :
    c.recommendations.countP (·.priority = priority) =
      c.summary.adviceCount (c.profile.thresholds.status c.summary.score) priority := by
  have hissues : (c.summary.criticalIssues.map c.issueRecommendation).countP (·.priority = priority) =
      if priority = .high then c.summary.criticalIssues.length else 0 := by
    rw [List.countP_map]
    cases priority with
    | high => exact List.countP_eq_length.mpr fun issue _ => rfl
    | medium => exact List.countP_eq_zero.mpr fun issue _ => Bool.false_ne_true
    | low => exact List.countP_eq_zero.mpr fun issue _ => Bool.false_ne_true
  rw [recommendations, List.countP_append, hissues, bandRecommendations]
  cases c.profile.thresholds.status c.summary.score <;> cases priority <;>
    simp [Summary.adviceCount, Nat.add_comm]

end Contribution

/-- Recommendations for an analyzer come from the contribution under its profile alone. -/
theorem filter_analyzer_flatMap {cs : List (Contribution α)} (hnames : (cs.map (·.profile.name)).Nodup)
    {c : Contribution α} (hc : c ∈ cs) :
    (cs.flatMap Contribution.recommendations).filter (·.analyzer = c.profile.name) =
      c.recommendations := by
  have hown : c.recommendations.filter (·.analyzer = c.profile.name) = c.recommendations :=
    List.filter_eq_self.mpr fun r hr =>
      decide_eq_true (Contribution.analyzer_of_mem_recommendations hr)
  have hother (d : Contribution α) (hne : d.profile.name ≠ c.profile.name) :
      d.recommendations.filter (·.analyzer = c.profile.name) = [] := by
    refine List.filter_eq_nil_iff.mpr fun r hr => ?_
    rw [Contribution.analyzer_of_mem_recommendations hr]
    exact fun h => hne (of_decide_eq_true h)
  -- with distinct names, none of those before and after it is of the same analyzer
  obtain ⟨before, after, rfl⟩ := List.append_of_mem hc
  rw [List.map_append, List.map_cons, List.nodup_middle, List.nodup_cons] at hnames
  have hrest (ds : List (Contribution α)) (hsub : ds ⊆ before ++ after) :
      (ds.flatMap Contribution.recommendations).filter (·.analyzer = c.profile.name) = [] := by
    rw [List.filter_flatMap, List.flatMap_eq_nil_iff]
    intro d hd
    refine hother d fun heq => hnames.1 ?_
    rw [← List.map_append, ← heq]
    exact List.mem_map_of_mem (hsub hd)
  rw [List.flatMap_append, List.flatMap_cons, List.filter_append, List.filter_append, hown,
    hrest before (List.subset_append_left _ _), hrest after (List.subset_append_right _ _), List.nil_append,
    List.append_nil]

/-! ### The order of recommendations -/

theorem rank_le_trans (r s t : Recommendation) : decide (r.priority.rank ≤ s.priority.rank) →
    decide (s.priority.rank ≤ t.priority.rank) → decide (r.priority.rank ≤ t.priority.rank) := by
  simp only [decide_eq_true_eq]
  omega

theorem rank_le_total (r s : Recommendation) :
    decide (r.priority.rank ≤ s.priority.rank) || decide (s.priority.rank ≤ r.priority.rank) := by
  simp only [Bool.or_eq_true, decide_eq_true_eq]
  omega

theorem byPriority_perm (rs : List Recommendation) : (byPriority rs).Perm rs :=
  List.mergeSort_perm rs _

theorem pairwise_byPriority (rs : List Recommendation) :
    (byPriority rs).Pairwise fun r s => r.priority.rank ≤ s.priority.rank :=
  (List.pairwise_mergeSort rank_le_trans rank_le_total rs).imp of_decide_eq_true

/-- Recommendations of one priority stay in the given order. -/
theorem filter_byPriority (rs : List Recommendation) (priority : Priority) :
    (byPriority rs).filter (·.priority = priority) = rs.filter (·.priority = priority) := by
  refine Entries.filter_mergeSort rank_le_trans rank_le_total fun r s hr hs => ?_
  rw [of_decide_eq_true hr, of_decide_eq_true hs]
  exact decide_eq_true (Nat.le_refl _)

theorem Priority.rank_injective {p q : Priority} (h : p.rank = q.rank) : p = q := by
  revert h
  cases p <;> cases q <;> decide

/-- Sorting by priority keeps any order of the recommendations within each of them. -/
theorem pairwise_byPriority_of_pairwise {rs : List Recommendation}
    {precedes : Recommendation → Recommendation → Prop} (h : rs.Pairwise precedes) :
    (byPriority rs).Pairwise fun r s => r.priority.rank < s.priority.rank ∨
      r.priority = s.priority ∧ precedes r s := by
  rw [List.pairwise_iff_forall_sublist]
  intro r s hsub
  have hle := List.pairwise_iff_forall_sublist.mp (pairwise_byPriority rs) hsub
  rcases Nat.lt_or_eq_of_le hle with hlt | heq
  · exact Or.inl hlt
  · -- two recommendations of one priority stand in this order in the given list as well
    have hpriority := Priority.rank_injective heq
    have hsame : [r, s].filter (·.priority = r.priority) = [r, s] := by
      simp [hpriority]
    have hgiven : [r, s].Sublist (rs.filter (·.priority = r.priority)) := by
      rw [← filter_byPriority, ← hsame]
      exact hsub.filter _
    exact Or.inr ⟨hpriority,
      List.pairwise_iff_forall_sublist.mp h (hgiven.trans List.filter_sublist)⟩

/-! ### The report on a project -/

section Project

variable {profiles : Profiles α} {scan : Workspace.ProjectScan}

/-- Analyses with different names come one after the other by their places. -/
theorem pairwise_placeOf {analyses : List Analysis} (hnames : (analyses.map (·.analyzer)).Nodup) :
    analyses.Pairwise fun a b => placeOf analyses a.analyzer ≤ placeOf analyses b.analyzer := by
  rw [List.pairwise_iff_getElem]
  intro i j hi hj hij
  have hplace (k : Nat) (hk : k < analyses.length) : placeOf analyses analyses[k].analyzer = k := by
    have h := hnames.idxOf_getElem k (by simpa using hk)
    rwa [List.getElem_map] at h
  rw [hplace i hi, hplace j hj]
  exact hij.le

theorem get?_of_mem_contributions {analyses : List Analysis} {c : Contribution α}
    (hc : c ∈ analyses.filterMap (contribution? profiles)) : profiles.get? c.profile.name = some c.profile := by
  obtain ⟨analysis, -, hanalysis⟩ := List.mem_filterMap.mp hc
  rw [name_of_contribution?_eq_some hanalysis]
  exact (contribution?_eq_some_iff.mp hanalysis).profile_eq

/-- Where all analyses have different names, no summary replaces another. -/
theorem summaries_ofScan (hnames : (scan.analyses.map (·.analyzer)).Nodup) :
    (ProjectReport.ofScan profiles scan).summaries =
      (scan.analyses.filterMap (contribution? profiles)).map fun c => (c.profile.name, c.summary) := by
  refine Entries.merge_eq_self ?_
  rw [List.map_map]
  exact Entries.nodup_map_filterMap name_of_contribution?_eq_some hnames

/-- **Within a project**, the recommendations are those that the summaries call for, the urgent ones first. -/
theorem isAdvised_ofScan (hnames : (scan.analyses.map (·.analyzer)).Nodup) :
    IsAdvised profiles scan.analyses (ProjectReport.ofScan profiles scan) := by
  have hsummaries : (ProjectReport.ofScan profiles scan).summaries = _ := summaries_ofScan hnames
  have hsublist : ((scan.analyses.filterMap (contribution? profiles)).map (·.profile.name)).Sublist
      (scan.analyses.map (·.analyzer)) :=
    Entries.map_filterMap_sublist name_of_contribution?_eq_some scan.analyses
  have hkeys : ((ProjectReport.ofScan profiles scan).summaries.map (·.1)) =
      (scan.analyses.filterMap (contribution? profiles)).map (·.profile.name) := by
    rw [hsummaries, List.map_map]
    rfl
  have hrecommendations : (ProjectReport.ofScan profiles scan).recommendations =
      byPriority ((scan.analyses.filterMap (contribution? profiles)).flatMap
        Contribution.recommendations) := rfl
  constructor
  case summaries_sublist =>
    rw [hkeys]
    exact hsublist
  case countAdvice_eq =>
    intro s hs
    rw [hsummaries, List.mem_map] at hs
    obtain ⟨c, hc, rfl⟩ := hs
    refine ⟨c.profile.thresholds.status c.summary.score, ?_, fun priority => ?_⟩
    · rw [band?, get?_of_mem_contributions hc, Option.map_some]
    · rw [← Contribution.countP_recommendations, hrecommendations, countAdvice,
        (byPriority_perm _).countP_eq, ← List.countP_filter,
        filter_analyzer_flatMap (hsublist.nodup hnames) hc]
  case analyzer_mem =>
    intro r hr
    rw [hrecommendations, (byPriority_perm _).mem_iff, List.mem_flatMap] at hr
    obtain ⟨c, hc, hr⟩ := hr
    rw [hkeys, Contribution.analyzer_of_mem_recommendations hr]
    exact List.mem_map_of_mem hc
  case ordered =>
    rw [hrecommendations]
    refine pairwise_byPriority_of_pairwise (List.pairwise_flatMap.mpr ⟨fun c _ => ?_, ?_⟩)
    · -- recommendations of one contribution are for one analyzer
      refine List.pairwise_of_forall_mem_list fun r hr s hs => ?_
      rw [Contribution.analyzer_of_mem_recommendations hr, Contribution.analyzer_of_mem_recommendations hs]
    · have hplaces : (scan.analyses.map (·.analyzer)).Pairwise fun a b =>
          placeOf scan.analyses a ≤ placeOf scan.analyses b :=
        List.pairwise_map.mpr (pairwise_placeOf hnames)
      refine (List.pairwise_map.mp (hplaces.sublist hsublist)).imp fun {c d} hle r hr s hs => ?_
      rwa [Contribution.analyzer_of_mem_recommendations hr, Contribution.analyzer_of_mem_recommendations hs]

end Project

/-! ### The report on a workspace -/

section Workspace

variable {profiles : Profiles α} {reports : List (ProjectReport α)}

/-- The urgent recommendations of contributions that go by their profiles' names are as many as their critical
issues and their failing summaries. -/
theorem countP_high_flatMap {cs : List (Contribution α)}
    (hprofile : ∀ c ∈ cs, profiles.get? c.profile.name = some c.profile) :
    (cs.flatMap Contribution.recommendations).countP (·.priority = .high) =
      (cs.map (·.summary.criticalIssues.length)).sum +
        ((cs.map fun c => (c.profile.name, c.summary)).filter fun s =>
          band? profiles s.1 s.2 = some .failing).length := by
  induction cs with
  | nil => rfl
  | cons c rest ih =>
    have hband : band? profiles c.profile.name c.summary =
        some (c.profile.thresholds.status c.summary.score) := by
      rw [band?, hprofile c List.mem_cons_self, Option.map_some]
    rw [List.flatMap_cons, List.countP_append, Contribution.countP_recommendations,
      ih fun d hd => hprofile d (List.mem_cons_of_mem c hd), List.map_cons, List.map_cons, List.sum_cons,
      List.filter_cons, hband, Summary.adviceCount]
    simp only [Option.some.injEq, decide_eq_true_eq]
    split
    · rw [List.length_cons]
      omega
    · omega

theorem countP_high_ofScan {scan : Workspace.ProjectScan}
    (hnames : (scan.analyses.map (·.analyzer)).Nodup) :
    (ProjectReport.ofScan profiles scan).recommendations.countP (·.priority = .high) =
      ((ProjectReport.ofScan profiles scan).summaries.map (·.2.criticalIssues.length)).sum +
        ((ProjectReport.ofScan profiles scan).summaries.filter fun s =>
          band? profiles s.1 s.2 = some .failing).length := by
  rw [summaries_ofScan hnames, List.map_map]
  exact ((byPriority_perm _).countP_eq _).trans (countP_high_flatMap fun _ => get?_of_mem_contributions)

/-- What holds in every project of the numbers of urgent recommendations holds of all of them together. -/
theorem sum_countP_high
    (h : ∀ r ∈ reports, r.recommendations.countP (·.priority = .high) =
      (r.summaries.map (·.2.criticalIssues.length)).sum +
        (r.summaries.filter fun s => band? profiles s.1 s.2 = some .failing).length) :
    (reports.map fun r => r.recommendations.countP (·.priority = .high)).sum =
      ((criticalCounts reports).map (·.2)).sum + (failingSummaries profiles reports).length := by
  rw [sum_map_snd_criticalCounts]
  induction reports with
  | nil => rfl
  | cons r rest ih =>
    have hfirst := h r List.mem_cons_self
    have hrest := ih fun q hq => h q (List.mem_cons_of_mem r hq)
    rw [List.map_cons, List.sum_cons, hfirst, hrest, List.flatMap_cons, List.map_append, List.sum_append,
      failingSummaries, failingSummaries, List.flatMap_cons, List.length_append, List.length_map]
    omega

theorem isFailing_eq_true_iff {analyzer : String} {summary : Summary α} :
    isFailing profiles analyzer summary = true ↔ band? profiles analyzer summary = some .failing := by
  rw [isFailing, band?]
  cases profiles.get? analyzer <;> simp

/-- A workspace fails exactly if a project does or a summary. -/
theorem hasFailures_eq_true_iff {report : WorkspaceReport α} :
    report.hasFailures profiles = true ↔ (∃ r ∈ report.projects, r.status = .failing) ∨
      0 < (failingSummaries profiles report.projects).length := by
  have hpairs : 0 < (failingSummaries profiles report.projects).length ↔
      ∃ r ∈ report.projects, ∃ s ∈ r.summaries, band? profiles s.1 s.2 = some .failing := by
    simp only [List.length_pos_iff_exists_mem, failingSummaries, List.mem_flatMap, List.mem_map,
      List.mem_filter, decide_eq_true_eq]
    constructor
    · rintro ⟨_, r, hr, s, hs, rfl⟩
      exact ⟨r, hr, s, hs⟩
    · rintro ⟨r, hr, s, hs⟩
      exact ⟨_, r, hr, s, hs, rfl⟩
  rw [WorkspaceReport.hasFailures, List.any_eq_true, hpairs]
  simp only [Bool.or_eq_true, decide_eq_true_eq, List.any_eq_true, isFailing_eq_true_iff]
  constructor
  · rintro ⟨r, hr, hstatus | ⟨s, hs⟩⟩
    · exact Or.inl ⟨r, hr, hstatus⟩
    · exact Or.inr ⟨r, hr, s, hs⟩
  · rintro (⟨r, hr, hstatus⟩ | ⟨r, hr, s, hs⟩)
    · exact ⟨r, hr, Or.inl hstatus⟩
    · exact ⟨r, hr, Or.inr ⟨s, hs⟩⟩

/-- **Recommendations, bands and critical issues agree** in the report on the outcome of a scan, for any
profiles. Every project is advised by its summaries; the urgent recommendations of all projects are as many as
the critical issues that the report counts and the failing summaries together; and the workspace fails exactly
if a project is failing by its own score or a summary is failing by its profile. -/
theorem ofOutcome_recommendations_agree (profiles : Profiles α) (previous : Option α)
    (timestamp : Time.Timestamp) (outcome : Workspace.Outcome)
    (hnames : ∀ scan ∈ outcome.projects, (scan.analyses.map (·.analyzer)).Nodup) :
    let report := WorkspaceReport.ofOutcome profiles previous timestamp outcome
    List.Forall₂ (fun scan r => r.projectName = scan.project.name ∧ IsAdvised profiles scan.analyses r)
        outcome.projects report.projects ∧
      (report.projects.map fun r => r.recommendations.countP (·.priority = .high)).sum =
        (report.criticalIssues.map (·.2)).sum + (failingSummaries profiles report.projects).length ∧
      (report.hasFailures profiles = true ↔ (∃ r ∈ report.projects, r.status = .failing) ∨
        0 < (failingSummaries profiles report.projects).length) := by
  intro report
  refine ⟨?_, sum_countP_high fun r hr => ?_, hasFailures_eq_true_iff⟩
  · exact List.forall₂_map_right_iff.mpr <| List.forall₂_same.mpr fun scan hscan =>
      ⟨rfl, isAdvised_ofScan (hnames scan hscan)⟩
  · obtain ⟨scan, hscan, rfl⟩ := List.mem_map.mp hr
    exact countP_high_ofScan (hnames scan hscan)

end Workspace

/-- Two projects. In the first, most lines are in one long duplicate and one file is far too complex; in the
second, nothing was found out. -/
def troubledOutcome : Workspace.Outcome where
  projects :=
    let files := [⟨"a.ts", 3, 20⟩, ⟨"b.ts", 50, 20⟩, ⟨"c.ts", 3, 20⟩, ⟨"d.ts", 3, 20⟩, ⟨"e.ts", 25, 20⟩]
    let duplicate := ⟨"a.ts", "b.ts", ⟨1, 60⟩, ⟨1, 60⟩, 60, ""⟩
    [⟨⟨"site", .application, "apps/site"⟩,
        [.succeeded "complexity" (.complexity ⟨files, 20, []⟩), .failed "lint" ["boom"],
          .succeeded "duplication" (.duplication ⟨[duplicate], 5, 100, 60, []⟩)]⟩,
      ⟨⟨"ui", .library, "libs/ui"⟩, [.failed "complexity" ["boom"]]⟩]
  failed := []
  isPartial := false

/-- The duplicate is critical and its summary failing; the file is critical and its summary calls for caution.
So there are three urgent recommendations, and the workspace fails. -/
theorem recommendations_troubledOutcome :
    (∀ scan ∈ troubledOutcome.projects, (scan.analyses.map (·.analyzer)).Nodup) ∧
      let report := WorkspaceReport.ofOutcome (Profiles.builtIn : Profiles Rat) none ⟨0, 0, 0⟩ troubledOutcome
      (report.projects.map fun r => r.recommendations.countP (·.priority = .high)).sum = 3 ∧
        report.hasFailures Profiles.builtIn = true := by
  have hnames : ∀ scan ∈ troubledOutcome.projects, (scan.analyses.map (·.analyzer)).Nodup := by decide
  obtain ⟨-, hhigh, hfailures⟩ := ofOutcome_recommendations_agree (Profiles.builtIn : Profiles Rat) none
    ⟨0, 0, 0⟩ troubledOutcome hnames
  have hfailing : (failingSummaries (Profiles.builtIn : Profiles Rat)
      (troubledOutcome.projects.map (ProjectReport.ofScan Profiles.builtIn))).length = 1 := by
    decide +kernel
  have hcritical : ((criticalCounts (troubledOutcome.projects.map
      (ProjectReport.ofScan (Profiles.builtIn : Profiles Rat)))).map (·.2)).sum = 2 := by
    rw [sum_map_snd_criticalCounts]
    decide +kernel
  refine ⟨hnames, hhigh.trans ?_, hfailures.mpr (Or.inr ?_)⟩
  · exact congrArg₂ (· + ·) hcritical hfailing
  · exact hfailing ▸ Nat.one_pos

end Checkup.Health
