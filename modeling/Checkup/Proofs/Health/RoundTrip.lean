import Checkup.Health.Decode
import Checkup.Health.Encode
import Checkup.Proofs.Health.Mean
import Checkup.Proofs.Json.Decode

/-!
# A report is read back from what is written for it

A report that has been saved is loaded to compare a later one with it. Loading undoes saving
(`WorkspaceReport.parse?_jsonText`), for a report all of whose doubles are finite, on these terms:

* **Maps** (`WorkspaceReport.IsMapped`) — a project has one summary for each analyzer, in any order; the figures
  of a summary and the counts of critical issues stand in ascending order of their names, and the counts are
  words. Every report that is loaded is so (`WorkspaceReport.isMapped_of_parse?_eq_some`), and every report that
  a scan makes as long as its counts are words (`WorkspaceReport.isMapped_ofOutcome`).
* **Codecs** — each finite double of the report is read back from the decimal that is written for it
  (`ReadsBack`), and its point in time from its text.

There are no terms for strings, which are read back whatever they hold, and none for the parts that may be left
out: an issue without a file, a recommendation without projects, no failed analyses or projects.

Each part of a report has two lemmas. One says that the decoder takes the value written for the part back to the
part (`ofJson?_toJson`), the other that a reader takes the text back to that value (`isPlain_toJson`). Fields
are looked up by their names in a record of known members, which is decided by evaluation; what is left for each
field is that its own decoder undoes its own encoder.
-/

namespace Checkup.Health

open Json

/-! ### Parts without numbers -/

theorem Issue.ofJson?_toJson (issue : Issue) : Issue.ofJson? issue.toJson = some issue := by
  obtain ⟨kind, severity, message, file⟩ := issue
  cases severity <;> cases file <;> rfl

theorem Issue.isPlain_toJson (issue : Issue) : IsPlain issue.toJson := by
  obtain ⟨kind, severity, message, file⟩ := issue
  cases file <;> simp [Issue.toJson]

theorem strings?_ofStrings (texts : List String) : list? string? (ofStrings texts) = some texts :=
  list?_map fun _ _ => rfl

theorem isPlain_ofStrings (texts : List String) : IsPlain (ofStrings texts) := by
  simp [ofStrings]

theorem Recommendation.ofJson?_toJson (r : Recommendation) :
    Recommendation.ofJson? r.toJson = some r := by
  obtain ⟨priority, analyzer, message, projects⟩ := r
  obtain ⟨fields, hfields, hpriority, hanalyzer, hmessage, hprojects⟩ :
      ∃ fields, fields? ["priority", "analyzer", "message", "projects"]
          (Recommendation.toJson ⟨priority, analyzer, message, projects⟩) = some fields ∧
        required (constant? ([.high, .medium, .low].map fun p => (p.name, p))) (fieldAt fields 0) =
          some priority ∧
        required string? (fieldAt fields 1) = some analyzer ∧
        required string? (fieldAt fields 2) = some message ∧
        withDefault (list? string?) [] (fieldAt fields 3) = some projects := by
    have hname : constant? ([.high, .medium, .low].map fun p => (p.name, p)) (.string priority.name) =
        some priority := by cases priority <;> rfl
    -- no projects are written as no member, which is read as no projects
    cases projects with
    | nil => exact ⟨_, rfl, hname, rfl, rfl, rfl⟩
    | cons project projects => exact ⟨_, rfl, hname, rfl, rfl, strings?_ofStrings (project :: projects)⟩
  simp only [Recommendation.ofJson?, hfields, hpriority, hanalyzer, hmessage, hprojects,
    Option.bind_eq_bind, Option.bind_some]
  rfl

theorem Recommendation.isPlain_toJson (r : Recommendation) : IsPlain r.toJson := by
  obtain ⟨priority, analyzer, message, projects⟩ := r
  cases projects <;> simp [Recommendation.toJson, isPlain_ofStrings]

theorem Unavailable.ofJson?_toJson (u : Unavailable) : Unavailable.ofJson? u.toJson = some u := by
  obtain ⟨fields, hfields, hanalyzer, herrors⟩ :
      ∃ fields, fields? ["analyzer", "errors"] u.toJson = some fields ∧
        required string? (fieldAt fields 0) = some u.analyzer ∧
        required (list? string?) (fieldAt fields 1) = some u.errors :=
    ⟨_, rfl, rfl, strings?_ofStrings u.errors⟩
  simp only [Unavailable.ofJson?, hfields, hanalyzer, herrors, Option.bind_eq_bind, Option.bind_some]
  rfl

theorem Unavailable.isPlain_toJson (u : Unavailable) : IsPlain u.toJson := by
  simp [Unavailable.toJson, isPlain_ofStrings]

theorem failedProjectOfJson?_toJson (f : Workspace.FailedProject) :
    failedProjectOfJson? (failedProjectToJson f) = some f :=
  rfl

theorem isPlain_failedProjectToJson (f : Workspace.FailedProject) : IsPlain (failedProjectToJson f) := by
  simp [failedProjectToJson]

/-! ### Summaries and projects -/

/-- The doubles of a summary. -/
def Summary.floats (s : Summary Float) : List Float :=
  s.score :: s.metrics.map (·.2)

/-- The doubles of the report on a project. -/
def ProjectReport.floats (r : ProjectReport Float) : List Float :=
  r.overallScore :: r.summaries.flatMap (·.2.floats)

/-- The entries of the report on a project are maps: each analyzer has one summary, and the figures of a summary
stand in ascending order of their names. -/
structure ProjectReport.IsMapped (r : ProjectReport Float) : Prop where
  nodup_summaries : (r.summaries.map (·.1)).Nodup
  ascending_metrics : ∀ s ∈ r.summaries, s.2.metrics.Pairwise fun a b => a.1 < b.1

section Summary

variable {s : Summary Float}

theorem Summary.ofJson?_toJson (hmetrics : s.metrics.Pairwise fun a b => a.1 < b.1)
    (hnumbers : ∀ x ∈ s.floats, ReadsBack x) : Summary.ofJson? s.toJson = some s := by
  obtain ⟨fields, hfields, hscore, hissues, hfigures⟩ :
      ∃ fields, fields? ["score", "issues", "metrics"] s.toJson = some fields ∧
        required float? (fieldAt fields 0) = some s.score ∧
        required (list? Issue.ofJson?) (fieldAt fields 1) = some s.issues ∧
        required (sortedEntries? float?) (fieldAt fields 2) = some s.metrics := by
    refine ⟨_, rfl, (isPlain_of_readsBack (hnumbers _ List.mem_cons_self)).2,
      list?_map fun issue _ => issue.ofJson?_toJson, sortedEntries?_map hmetrics fun m hm => ?_⟩
    exact (isPlain_of_readsBack (hnumbers _ (List.mem_cons_of_mem _ (List.mem_map_of_mem hm)))).2
  simp only [Summary.ofJson?, hfields, hscore, hissues, hfigures, Option.bind_eq_bind, Option.bind_some]
  rfl

theorem Summary.isPlain_toJson (hnumbers : ∀ x ∈ s.floats, ReadsBack x) : IsPlain s.toJson := by
  have hfloats : ∀ x ∈ s.floats, IsPlain (ofFloat x) := fun x hx => (isPlain_of_readsBack (hnumbers x hx)).1
  simp only [Summary.floats, List.forall_mem_cons, List.forall_mem_map] at hfloats
  rw [Summary.toJson, isPlain_object_iff]
  simp only [List.forall_mem_cons]
  exact ⟨hfloats.1, isPlain_array_map fun issue _ => issue.isPlain_toJson, isPlain_object_map hfloats.2, nofun⟩

end Summary

section Project

variable {r : ProjectReport Float}

theorem readsBack_of_mem_summaries (hnumbers : ∀ x ∈ r.floats, ReadsBack x) {s : String × Summary Float}
    (hs : s ∈ r.summaries) : ∀ x ∈ s.2.floats, ReadsBack x :=
  fun x hx => hnumbers x (List.mem_cons_of_mem _ (List.mem_flatMap.mpr ⟨s, hs, hx⟩))

theorem ProjectReport.ofJson?_toJson (hmaps : r.IsMapped) (hnumbers : ∀ x ∈ r.floats, ReadsBack x) :
    ProjectReport.ofJson? r.toJson = some r := by
  obtain ⟨fields, hfields, hname, hkind, hscore, hsummaries, hrecommendations, hunavailable⟩ :
      ∃ fields, fields?
          ["projectName", "kind", "overallScore", "summaries", "recommendations", "unavailable"] r.toJson =
            some fields ∧
        required string? (fieldAt fields 0) = some r.projectName ∧
        required projectKindOfJson? (fieldAt fields 1) = some r.kind ∧
        required float? (fieldAt fields 2) = some r.overallScore ∧
        required summariesOfJson? (fieldAt fields 3) = some r.summaries ∧
        required (list? Recommendation.ofJson?) (fieldAt fields 4) = some r.recommendations ∧
        withDefault (list? Unavailable.ofJson?) [] (fieldAt fields 5) = some r.unavailable := by
    have hkind : projectKindOfJson? (.string r.kind.name) = some r.kind := by cases r.kind <;> rfl
    refine ⟨_, rfl, rfl, hkind, (isPlain_of_readsBack (hnumbers _ List.mem_cons_self)).2, ?_,
      list?_map fun recommendation _ => recommendation.ofJson?_toJson, list?_map fun u _ => u.ofJson?_toJson⟩
    -- each analyzer has one summary, so merging the summaries changes nothing
    refine Option.map_eq_some_iff.mpr ⟨r.summaries, entries?_map fun s hs => ?_,
      Entries.merge_eq_self hmaps.nodup_summaries⟩
    exact Summary.ofJson?_toJson (hmaps.ascending_metrics s hs) (readsBack_of_mem_summaries hnumbers hs)
  simp only [ProjectReport.ofJson?, hfields, hname, hkind, hscore, hsummaries, hrecommendations,
    hunavailable, Option.bind_eq_bind, Option.bind_some]
  rfl

theorem ProjectReport.isPlain_toJson (hnumbers : ∀ x ∈ r.floats, ReadsBack x) : IsPlain r.toJson := by
  rw [ProjectReport.toJson, isPlain_object_iff]
  simp only [List.forall_mem_cons]
  exact ⟨.string _, .string _, (isPlain_of_readsBack (hnumbers _ List.mem_cons_self)).1,
    isPlain_object_map fun s hs => Summary.isPlain_toJson (readsBack_of_mem_summaries hnumbers hs),
    isPlain_array_map fun recommendation _ => recommendation.isPlain_toJson,
    isPlain_array_map fun u _ => u.isPlain_toJson, nofun⟩

end Project

/-! ### The report on a workspace -/

/-- The doubles of a report. -/
def WorkspaceReport.floats (r : WorkspaceReport Float) : List Float :=
  r.score :: r.projects.flatMap (·.floats)

/-- The entries of a report are maps, and its counts are words. -/
structure WorkspaceReport.IsMapped (r : WorkspaceReport Float) : Prop where
  isMapped_projects : ∀ p ∈ r.projects, p.IsMapped
  ascending_criticalIssues : r.criticalIssues.Pairwise fun a b => a.1 < b.1
  lt_size_of_mem : ∀ c ∈ r.criticalIssues, c.2 < Word.size

section Workspace

variable {r : WorkspaceReport Float}

theorem readsBack_of_mem_projects (hnumbers : ∀ x ∈ r.floats, ReadsBack x) {p : ProjectReport Float}
    (hp : p ∈ r.projects) : ∀ x ∈ p.floats, ReadsBack x :=
  fun x hx => hnumbers x (List.mem_cons_of_mem _ (List.mem_flatMap.mpr ⟨p, hp, hx⟩))

theorem aggregateOfJson?_eq_some {score : Float} (hscore : ReadsBack score) (trend : Trend) :
    aggregateOfJson? (.object [("score", .ofFloat score), ("trend", .string trend.name)]) =
      some (score, trend) := by
  obtain ⟨fields, hfields, hscore, htrend⟩ :
      ∃ fields, fields? ["score", "trend"]
          (.object [("score", .ofFloat score), ("trend", .string trend.name)]) = some fields ∧
        required float? (fieldAt fields 0) = some score ∧
        required (constant? ([Trend.improving, .stable, .declining].map fun t => (t.name, t)))
          (fieldAt fields 1) = some trend :=
    ⟨_, rfl, (isPlain_of_readsBack hscore).2, by cases trend <;> rfl⟩
  simp only [aggregateOfJson?, hfields, hscore, htrend, Option.bind_eq_bind, Option.bind_some]
  rfl

theorem WorkspaceReport.ofJson?_toJson (hmaps : r.IsMapped) (hnumbers : ∀ x ∈ r.floats, ReadsBack x)
    (htimestamp : Time.Timestamp.parse? r.timestamp.text = some r.timestamp) :
    WorkspaceReport.ofJson? r.toJson = some r := by
  obtain ⟨fields, hfields, htext, hprojects, haggregate, hissues, hrecommendations, hpartial, hfailed⟩ :
      ∃ fields, fields? ["timestamp", "projectReports", "aggregateHealth", "criticalIssues",
            "recommendations", "partial", "failedProjects"] r.toJson = some fields ∧
        required string? (fieldAt fields 0) = some r.timestamp.text ∧
        required (list? ProjectReport.ofJson?) (fieldAt fields 1) = some r.projects ∧
        required aggregateOfJson? (fieldAt fields 2) = some (r.score, r.trend) ∧
        required (sortedEntries? word?) (fieldAt fields 3) = some r.criticalIssues ∧
        required (list? Recommendation.ofJson?) (fieldAt fields 4) = some r.recommendations ∧
        withDefault bool? false (fieldAt fields 5) = some r.isPartial ∧
        withDefault (list? failedProjectOfJson?) [] (fieldAt fields 6) = some r.failed := by
    refine ⟨_, rfl, rfl, list?_map fun p hp => ?_, ?_, ?_,
      list?_map fun recommendation _ => recommendation.ofJson?_toJson, rfl, list?_map fun f _ => ?_⟩
    · exact ProjectReport.ofJson?_toJson (hmaps.isMapped_projects p hp) (readsBack_of_mem_projects hnumbers hp)
    · exact aggregateOfJson?_eq_some (hnumbers _ List.mem_cons_self) r.trend
    · exact sortedEntries?_map hmaps.ascending_criticalIssues fun c hc =>
        Numeral.nat?_ofNat (hmaps.lt_size_of_mem c hc)
    · exact failedProjectOfJson?_toJson f
  simp only [WorkspaceReport.ofJson?, hfields, htext, htimestamp, hprojects, haggregate, hissues,
    hrecommendations, hpartial, hfailed, Option.bind_eq_bind, Option.bind_some]
  rfl

theorem WorkspaceReport.isPlain_toJson (hnumbers : ∀ x ∈ r.floats, ReadsBack x) : IsPlain r.toJson := by
  have hscore := (isPlain_of_readsBack (hnumbers _ List.mem_cons_self)).1
  have haggregate : IsPlain (.object [("score", .ofFloat r.score), ("trend", .string r.trend.name)]) := by
    simp [hscore]
  rw [WorkspaceReport.toJson, isPlain_object_iff]
  simp only [List.forall_mem_cons]
  exact ⟨.string _,
    isPlain_array_map fun p hp => ProjectReport.isPlain_toJson (readsBack_of_mem_projects hnumbers hp),
    haggregate, isPlain_object_map fun c _ => isPlain_ofNat c.2,
    isPlain_array_map fun recommendation _ => recommendation.isPlain_toJson, .bool _,
    isPlain_array_map fun f _ => isPlain_failedProjectToJson f, nofun⟩

/-- **Loading undoes saving.** The text that is saved for a report with finite doubles is loaded as an equal
report, if the codecs of doubles and of points in time read back what they write for it. -/
theorem WorkspaceReport.parse?_jsonText (hmaps : r.IsMapped) (hfinite : ∀ x ∈ r.floats, x.isFinite = true)
    (hnumbers : ∀ x ∈ r.floats, x.isFinite = true → ReadsBack x)
    (htimestamp : Time.Timestamp.parse? r.timestamp.text = some r.timestamp) :
    WorkspaceReport.parse? r.jsonText = some r := by
  have hreads : ∀ x ∈ r.floats, ReadsBack x := fun x hx => hnumbers x hx (hfinite x hx)
  have htext : r.jsonText.toList = print true 0 r.toJson ++ ['\n'] := by
    simp [jsonText, pretty]
  have hparse : Json.parse? r.jsonText.toList = some r.toJson := by
    rw [htext]
    exact (isPlain_toJson hreads).parse?_print_append true (by simp [isSpace])
  have hdecode : WorkspaceReport.ofJson? r.toJson = some r := ofJson?_toJson hmaps hreads htimestamp
  rw [WorkspaceReport.parse?, hparse, Option.bind_eq_bind, Option.bind_some, hdecode]

end Workspace

/-- The report on a partial scan of two projects, one of which could not be scanned. The summaries of the other
are not in the order of their names, an analyzer of it has failed, and it has issues with and without a file. -/
def partialReport : WorkspaceReport Float where
  timestamp := ⟨20000, 3661, 500000000⟩
  projects := [{
    projectName := "ui"
    kind := .library
    overallScore := 71.42857142857143
    summaries := [
      ("type-safety", ⟨62.5, [⟨"no-check", .critical, "type checking is disabled", some "a.ts"⟩,
        ⟨"explicit-any", .warning, "3 explicit any occurrences", none⟩], [("escapes", 3), ("no-check", 1)]⟩),
      ("complexity", ⟨100, [], []⟩)]
    recommendations := [⟨.high, "type-safety", "a.ts: type checking is disabled", []⟩]
    unavailable := [⟨"dependency", ["cannot read \"package.json\""]⟩] }]
  score := 71.42857142857143
  trend := .declining
  criticalIssues := [("complexity", 0), ("type-safety", 1)]
  recommendations := [⟨.medium, "type-safety", "widespread", ["ui"]⟩]
  isPartial := true
  failed := [⟨"web", "no project manifest found"⟩]

/-- The report is loaded from its text. The terms are checked for it one by one: its maps, and every one of its
doubles and its point in time read back. -/
theorem parse?_jsonText_partialReport :
    partialReport.IsMapped ∧ (∀ x ∈ partialReport.floats, x.isFinite = true) ∧
      (∀ x ∈ partialReport.floats, x.isFinite = true → ReadsBack x) ∧
      Time.Timestamp.parse? partialReport.timestamp.text = some partialReport.timestamp ∧
      WorkspaceReport.parse? partialReport.jsonText = some partialReport := by
  have hmaps : partialReport.IsMapped := by
    refine ⟨fun p hp => ?_, by decide, by decide⟩
    obtain rfl := List.mem_singleton.mp hp
    exact ⟨by decide, by decide⟩
  have hfinite : ∀ x ∈ partialReport.floats, x.isFinite = true := by decide +kernel
  have hnumbers : ∀ x ∈ partialReport.floats, x.isFinite = true → ReadsBack x := by decide +kernel
  have htimestamp : Time.Timestamp.parse? partialReport.timestamp.text = some partialReport.timestamp := by
    decide +kernel
  exact ⟨hmaps, hfinite, hnumbers, htimestamp,
    WorkspaceReport.parse?_jsonText hmaps hfinite hnumbers htimestamp⟩

/-! ### What is loaded is mapped -/

theorem Summary.ascending_of_ofJson?_eq_some {value : Json} {s : Summary Float}
    (h : Summary.ofJson? value = some s) : s.metrics.Pairwise fun a b => a.1 < b.1 := by
  simp only [Summary.ofJson?, Option.bind_eq_bind, Option.bind_eq_some_iff] at h
  obtain ⟨fields, -, score, -, issues, -, metrics, hmetrics, h⟩ := h
  obtain rfl := Option.some.inj h
  obtain ⟨written, hwritten⟩ := exists_of_required_eq_some hmetrics
  exact pairwise_of_sortedEntries?_eq_some hwritten

theorem ProjectReport.isMapped_of_ofJson?_eq_some {value : Json} {r : ProjectReport Float}
    (h : ProjectReport.ofJson? value = some r) : r.IsMapped := by
  simp only [ProjectReport.ofJson?, Option.bind_eq_bind, Option.bind_eq_some_iff] at h
  obtain ⟨fields, -, name, -, kind, -, score, -, summaries, hsummaries, recommendations, -, unavailable, -,
    h⟩ := h
  obtain rfl := Option.some.inj h
  obtain ⟨written, hwritten⟩ := exists_of_required_eq_some hsummaries
  obtain ⟨entries, hentries, rfl⟩ := Option.map_eq_some_iff.mp hwritten
  refine ⟨Entries.nodup_map_fst_merge entries, fun s hs => ?_⟩
  exact forall_mem_of_entries?_eq_some (fun _ _ => Summary.ascending_of_ofJson?_eq_some) hentries s
    (Entries.merge_subset entries hs)

theorem WorkspaceReport.isMapped_of_ofJson?_eq_some {value : Json} {r : WorkspaceReport Float}
    (h : WorkspaceReport.ofJson? value = some r) : r.IsMapped := by
  simp only [WorkspaceReport.ofJson?, Option.bind_eq_bind, Option.bind_eq_some_iff] at h
  obtain ⟨fields, -, text, -, timestamp, -, aggregate, -, projects, hprojects, issues, hissues,
    recommendations, -, isPartial, -, failed, -, h⟩ := h
  obtain rfl := Option.some.inj h
  obtain ⟨writtenProjects, hprojects⟩ := exists_of_required_eq_some hprojects
  obtain ⟨writtenIssues, hissues⟩ := exists_of_required_eq_some hissues
  exact ⟨forall_mem_of_list?_eq_some (fun _ _ => ProjectReport.isMapped_of_ofJson?_eq_some) hprojects,
    pairwise_of_sortedEntries?_eq_some hissues,
    forall_mem_of_sortedEntries?_eq_some (fun _ _ => lt_of_word?_eq_some) hissues⟩

/-- Whatever the text, a report that is loaded from it is mapped. -/
theorem WorkspaceReport.isMapped_of_parse?_eq_some {text : String} {r : WorkspaceReport Float}
    (h : WorkspaceReport.parse? text = some r) : r.IsMapped := by
  obtain ⟨value, -, hvalue⟩ := Option.bind_eq_some_iff.mp h
  exact WorkspaceReport.isMapped_of_ofJson?_eq_some hvalue

/-! ### What a scan makes is mapped -/

/-- A profile whose summaries have their figures in ascending order of their names. -/
def Profile.IsAscending (p : Profile Float) : Prop :=
  ∀ findings s, p.rawSummary? findings = some s → (s.metrics.map (·.1)).Pairwise (· < ·)

theorem Profiles.isAscending_of_mem_builtIn : ∀ p ∈ (Profiles.builtIn : Profiles Float), p.IsAscending := by
  simp only [Profiles.builtIn, List.forall_mem_cons]
  refine ⟨?_, ?_, ?_, ?_, ?_, nofun⟩
  all_goals
    intro findings s h
    cases findings <;> try contradiction
    obtain rfl := Option.some.inj h
  · simp only [Duplication.Findings.summary, List.map]
    decide
  · simp only [Complexity.Findings.summary, List.map]
    decide
  · rw [Dependency.Findings.summary]
    split
    all_goals
      simp only [List.cons_append, List.nil_append, List.map]
      decide
  · simp only [Assets.Findings.summary, List.map]
    decide
  · simp only [Escapes.Findings.summary, List.map]
    decide

theorem Profiles.isAscending_of_mem_ofConfig {config : Config Float} :
    ∀ p ∈ Profiles.ofConfig config, p.IsAscending := by
  intro p hp
  obtain ⟨q, hq, rfl⟩ := List.mem_map.mp hp
  exact isAscending_of_mem_builtIn q hq

theorem ProjectReport.isMapped_ofScan {profiles : Profiles Float} (h : ∀ p ∈ profiles, p.IsAscending)
    (scan : Workspace.ProjectScan) : (ProjectReport.ofScan profiles scan).IsMapped := by
  refine ⟨Entries.nodup_map_fst_merge _, fun s hs => ?_⟩
  obtain ⟨c, hc, rfl⟩ := List.mem_map.mp (Entries.merge_subset _ hs)
  obtain ⟨analysis, -, hanalysis⟩ := List.mem_filterMap.mp hc
  have hcontribution := contribution?_eq_some_iff.mp hanalysis
  obtain ⟨findings, -, hsummary⟩ := hcontribution.exists_findings
  obtain ⟨summary, hraw, heq⟩ := Option.map_eq_some_iff.mp hsummary
  -- the profile moves the score into range and nothing else
  have hmetrics : c.summary.metrics = summary.metrics := heq ▸ rfl
  rw [hmetrics]
  exact List.pairwise_map.mp (h _ hcontribution.profile_mem findings summary hraw)

/-- A report that is made of a scan is mapped, if its counts are words. -/
theorem WorkspaceReport.isMapped_ofOutcome {config : Config Float} {previous : Option Float}
    {timestamp : Time.Timestamp} {outcome : Workspace.Outcome}
    (hcounts : ∀ c ∈ (ofOutcome (.ofConfig config) previous timestamp outcome).criticalIssues,
      c.2 < Word.size) :
    (ofOutcome (.ofConfig config) previous timestamp outcome).IsMapped := by
  refine ⟨List.forall_mem_map.mpr fun scan _ => ?_, Entries.pairwise_sort ?_, hcounts⟩
  · exact ProjectReport.isMapped_ofScan Profiles.isAscending_of_mem_ofConfig scan
  · rw [List.map_map]
    exact (List.map_id _).symm ▸ Entries.nodup_eraseDups _

end Checkup.Health
