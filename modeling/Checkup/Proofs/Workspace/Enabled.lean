import Checkup.Analyzer.BuiltIn
import Checkup.Proofs.Health.Mean
import Checkup.Proofs.Workspace.Scan

/-!
# The analyzers that look at a project

A configuration mentions analyzers by name. A mention has a result if the registry runs the name for the kind of
the project (`Registry.runs`): something is registered under it, and supports the kind. The results of a project
are those of such mentions, in their order (`Registry.map_name_enabled`).

Names may be mentioned more than once, and no check of a configuration forbids it. So a project has one result
for each analyzer (`IsOneEach`) exactly if no name that is run is mentioned twice
(`Scanner.analyses_scanProject`). Otherwise the results of a name are equal to each other and all contribute to
the overall score, in which the weight of the analyzer then counts as often as it is mentioned.
-/

namespace Checkup

/-- Whether an analyzer is registered under a name and supports projects of a kind. -/
def Registry.runs (registry : Registry) (kind : Workspace.ProjectKind) (name : String) : Bool :=
  (registry.get? name).any (·.supports kind)

/-- There is one result for each name that is mentioned and run, in the order in which they are mentioned
first. -/
structure IsOneEach (mentioned : List String) (runs : String → Bool) (results : List String) : Prop where
  nodup : results.Nodup
  mem_iff : ∀ name, name ∈ results ↔ name ∈ mentioned ∧ runs name = true
  ordered : results.Pairwise fun a b => mentioned.idxOf a < mentioned.idxOf b

/-! ### Mentions -/

section Mentions

variable {mentioned : List String} {runs : String → Bool}

theorem pairwise_idxOf_filter (h : (mentioned.filter runs).Nodup) :
    (mentioned.filter runs).Pairwise fun a b => mentioned.idxOf a < mentioned.idxOf b := by
  induction mentioned with
  | nil => exact List.Pairwise.nil
  | cons name rest ih =>
    -- names other than the first are found one place later in the whole list
    have hlater : ∀ {l : List String}, name ∉ l →
        (l.Pairwise fun a b => rest.idxOf a < rest.idxOf b) →
          l.Pairwise fun a b => (name :: rest).idxOf a < (name :: rest).idxOf b := by
      intro l hname hl
      refine hl.imp_of_mem fun ha hb hlt => ?_
      rw [List.idxOf_cons_ne _ (ne_of_mem_of_not_mem ha hname).symm,
        List.idxOf_cons_ne _ (ne_of_mem_of_not_mem hb hname).symm]
      exact Nat.succ_lt_succ hlt
    by_cases hruns : runs name = true
    · rw [List.filter_cons_of_pos hruns, List.nodup_cons] at h
      rw [List.filter_cons_of_pos hruns, List.pairwise_cons]
      refine ⟨fun b hb => ?_, hlater h.1 (ih h.2)⟩
      rw [List.idxOf_cons_self, List.idxOf_cons_ne _ (ne_of_mem_of_not_mem hb h.1).symm]
      exact Nat.succ_pos _
    · rw [List.filter_cons_of_neg hruns] at h ⊢
      exact hlater (fun hmem => hruns (List.mem_filter.mp hmem).2) (ih h)

theorem count_filter_runs (mentioned : List String) (runs : String → Bool) (name : String) :
    (mentioned.filter runs).count name = if runs name then mentioned.count name else 0 := by
  by_cases hruns : runs name = true
  · rw [if_pos hruns, List.count_filter hruns]
  · rw [if_neg hruns, List.count_eq_zero]
    exact fun hmem => hruns (List.mem_filter.mp hmem).2

/-- One result for each mention that is run is one for each name if no such name is mentioned twice. -/
theorem isOneEach_filter_iff :
    IsOneEach mentioned runs (mentioned.filter runs) ↔
      ∀ name, runs name = true → mentioned.count name ≤ 1 := by
  have hnodup : (mentioned.filter runs).Nodup ↔
      ∀ name, runs name = true → mentioned.count name ≤ 1 := by
    rw [List.nodup_iff_count_le_one]
    refine forall_congr' fun name => ?_
    rw [count_filter_runs]
    split
    case isTrue hruns => rw [forall_prop_of_true hruns]
    case isFalse hruns => exact iff_of_true (Nat.zero_le 1) fun h => absurd h hruns
  constructor
  · exact fun h => hnodup.mp h.nodup
  · intro h
    exact ⟨hnodup.mpr h, fun _ => List.mem_filter, pairwise_idxOf_filter (hnodup.mpr h)⟩

end Mentions

/-! ### Results by name -/

theorem Analyzer.analyzer_analysis (analyzer : Analyzer) (subject : Subject) :
    (analyzer.analysis subject).analyzer = analyzer.name := by
  rw [Analyzer.analysis]
  cases analyzer.analyze subject <;> rfl

namespace Registry

variable {registry : Registry} {analyzer : Analyzer} {kind : Workspace.ProjectKind}

theorem name_of_get? {name : String} (h : registry.get? name = some analyzer) : analyzer.name = name := by
  simpa using List.find?_some h

theorem mem_enabled_iff {names : List String} :
    analyzer ∈ registry.enabled names kind ↔
      analyzer.name ∈ names ∧ registry.get? analyzer.name = some analyzer ∧
        analyzer.supports kind = true := by
  rw [enabled, List.mem_filter, List.mem_filterMap]
  constructor
  · rintro ⟨⟨name, hname, hget⟩, hsupports⟩
    obtain rfl := name_of_get? hget
    exact ⟨hname, hget, hsupports⟩
  · rintro ⟨hname, hget, hsupports⟩
    exact ⟨⟨_, hname, hget⟩, hsupports⟩

/-- The analyzers that look at a project go by the mentions that are run. -/
theorem map_name_enabled (registry : Registry) (names : List String) (kind : Workspace.ProjectKind) :
    (registry.enabled names kind).map (·.name) = names.filter (registry.runs kind) := by
  induction names with
  | nil => rfl
  | cons name rest ih =>
    rw [enabled] at ih ⊢
    cases hget : registry.get? name with
    | none =>
      have hruns : ¬registry.runs kind name = true := by simp [runs, hget]
      rw [List.filterMap_cons_none hget, List.filter_cons_of_neg hruns, ih]
    | some analyzer =>
      rw [List.filterMap_cons_some hget]
      have hruns : registry.runs kind name = analyzer.supports kind := by rw [runs, hget, Option.any_some]
      rw [List.filter_cons, List.filter_cons, hruns]
      cases analyzer.supports kind with
      | true => rw [if_pos rfl, if_pos rfl, List.map_cons, name_of_get? hget, ih]
      | false => rw [if_neg Bool.false_ne_true, if_neg Bool.false_ne_true, ih]

end Registry

/-! ### Results in the overall score -/

namespace Health

variable {α : Type} [Measure α]

theorem map_name_filterMap_contribution? (profiles : Profiles α) (analyses : List Analysis) :
    (analyses.filterMap (contribution? profiles)).map (·.profile.name) =
      (analyses.filter fun a => (contribution? profiles a).isSome).map (·.analyzer) := by
  induction analyses with
  | nil => rfl
  | cons a rest ih =>
    cases h : contribution? profiles a with
    | none => rw [List.filterMap_cons_none h, List.filter_cons_of_neg (by simp [h]), ih]
    | some c =>
      rw [List.filterMap_cons_some h, List.filter_cons_of_pos (by simp [h]), List.map_cons, List.map_cons,
        name_of_contribution?_eq_some h, ih]

/-- Where the results of a name are equal, all of them contribute or none. -/
theorem count_contributions (profiles : Profiles α) {analyses : List Analysis}
    (h : ∀ a ∈ analyses, ∀ b ∈ analyses, a.analyzer = b.analyzer → a = b) (name : String) :
    let counted := ((analyses.filterMap (contribution? profiles)).map (·.profile.name)).count name
    counted = 0 ∨ counted = (analyses.map (·.analyzer)).count name := by
  intro counted
  by_cases hzero : counted = 0
  · exact Or.inl hzero
  right
  have hmem : name ∈ (analyses.filterMap (contribution? profiles)).map (·.profile.name) :=
    List.count_pos_iff.mp (Nat.pos_of_ne_zero hzero)
  rw [map_name_filterMap_contribution?] at hmem
  obtain ⟨a, ha, rfl⟩ := List.mem_map.mp hmem
  obtain ⟨ha, hsome⟩ := List.mem_filter.mp ha
  -- one of the name contributes, so all of the name do, being equal to it
  have hall : ∀ b ∈ analyses, b.analyzer = a.analyzer → (contribution? profiles b).isSome = true :=
    fun b hb hname => h b hb a ha hname ▸ hsome
  change ((analyses.filterMap _).map _).count a.analyzer = _
  rw [map_name_filterMap_contribution?, List.count_eq_countP, List.count_eq_countP, List.countP_map,
    List.countP_map, List.countP_filter]
  refine List.countP_congr fun b hb => ?_
  simp only [Function.comp_apply, Bool.and_eq_true, beq_iff_eq, and_iff_left_iff_imp]
  exact hall b hb

end Health

/-! ### The results of a project -/

namespace Workspace.Scanner

section Results

variable {scanner : Scanner} {p : Project}

/-- The results of a project go by the mentions that are run. -/
theorem map_analyzer_analyses (scanner : Scanner) (p : Project) (subject : Subject) :
    ((scanner.analyzers p).map (·.analysis subject)).map (·.analyzer) =
      scanner.config.enabledAnalyzers.filter (scanner.registry.runs p.kind) := by
  rw [List.map_map, ← Registry.map_name_enabled]
  exact List.map_congr_left fun analyzer _ => analyzer.analyzer_analysis subject

/-- A result is what the analyzer that is registered under its name makes of the project. -/
theorem exists_analyzer_of_mem_analyses {subject : Subject} {a : Analysis}
    (ha : a ∈ (scanner.analyzers p).map (·.analysis subject)) :
    ∃ analyzer, scanner.registry.get? a.analyzer = some analyzer ∧ a = analyzer.analysis subject := by
  obtain ⟨analyzer, hanalyzer, rfl⟩ := List.mem_map.mp ha
  refine ⟨analyzer, ?_, rfl⟩
  rw [analyzer.analyzer_analysis subject]
  exact (Registry.mem_enabled_iff.mp hanalyzer).2.1

/-- Results of one name are equal. -/
theorem eq_of_mem_analyses {subject : Subject} {a b : Analysis}
    (ha : a ∈ (scanner.analyzers p).map (·.analysis subject))
    (hb : b ∈ (scanner.analyzers p).map (·.analysis subject)) (hname : a.analyzer = b.analyzer) : a = b := by
  obtain ⟨analyzer, hget, hanalyzer⟩ := exists_analyzer_of_mem_analyses ha
  obtain ⟨other, hother, hotherAnalysis⟩ := exists_analyzer_of_mem_analyses hb
  rw [hname, hother] at hget
  obtain rfl := Option.some.inj hget
  rw [hanalyzer, hotherAnalysis]

end Results

/-- **One result for each mention.** A project that can be resolved has one result for each mention of a name
that is run, in the order of the mentions, which is what the analyzer of the name makes of the project. It has
one result for each analyzer if and only if no name that is run is mentioned twice; and an analyzer that counts
in the overall score at all counts in it as often as it is mentioned. -/
theorem analyses_scanProject (scanner : Scanner) (p : Project) {m : Metadata}
    (h : resolve scanner.tree p.root = .ok m) :
    let runs := scanner.registry.runs p.kind
    let mentioned := scanner.config.enabledAnalyzers
    ∃ subject x, scanner.subject p = .ok subject ∧ scanner.scanProject p = .ok x ∧
      x.analyses.map (·.analyzer) = mentioned.filter runs ∧
      (∀ a ∈ x.analyses, ∃ analyzer, scanner.registry.get? a.analyzer = some analyzer ∧
        a = analyzer.analysis subject) ∧
      (IsOneEach mentioned runs (x.analyses.map (·.analyzer)) ↔
        ∀ name, runs name = true → mentioned.count name ≤ 1) ∧
      ∀ (α : Type) [Measure α] (profiles : Health.Profiles α) (name : String),
        let counted := ((x.analyses.filterMap (Health.contribution? profiles)).map (·.profile.name)).count name
        counted = 0 ∨ counted = mentioned.count name := by
  intro runs mentioned
  obtain ⟨subject, hsubject⟩ := exists_subject_eq_ok h
  have hnames : ((scanner.analyzers p).map (·.analysis subject)).map (·.analyzer) =
      mentioned.filter runs := map_analyzer_analyses scanner p subject
  refine ⟨subject, _, hsubject, scanProject_eq_ok hsubject, hnames,
    fun a => exists_analyzer_of_mem_analyses, ?_, ?_⟩
  · rw [hnames]
    exact isOneEach_filter_iff
  · intro α _ profiles name counted
    have hequal : ∀ a ∈ (scanner.analyzers p).map (·.analysis subject),
        ∀ b ∈ (scanner.analyzers p).map (·.analysis subject), a.analyzer = b.analyzer → a = b :=
      fun a ha b hb => eq_of_mem_analyses ha hb
    rcases Health.count_contributions profiles hequal name with hcounted | hcounted
    · exact Or.inl hcounted
    · rw [hnames, count_filter_runs] at hcounted
      split at hcounted
      · exact Or.inr hcounted
      · exact Or.inl hcounted

/-- All built-in analyzers look at a library but the one of emitted assets, which is for applications. -/
theorem isOneEach_site :
    let scanner : Scanner := { siteScanner with registry := .builtIn }
    let library : Project := ⟨"site", .library, "/site"⟩
    (∃ m, resolve scanner.tree library.root = .ok m) ∧
      ∃ x, scanner.scanProject library = .ok x ∧
        x.analyses.map (·.analyzer) = [AnalyzerName.duplication, AnalyzerName.complexity,
          AnalyzerName.dependency, AnalyzerName.typeSafety] ∧
        IsOneEach AnalyzerName.all (scanner.registry.runs .library) (x.analyses.map (·.analyzer)) := by
  intro scanner library
  obtain ⟨m, hresolve⟩ : ∃ m, resolve scanner.tree library.root = .ok m := exists_resolve_site
  obtain ⟨-, x, -, hscan, hnames, -, hiff, -⟩ := analyses_scanProject scanner library hresolve
  have hdistinct : AnalyzerName.all.Nodup := by decide
  exact ⟨⟨m, hresolve⟩, x, hscan, hnames.trans rfl,
    hiff.mpr fun name _ => List.nodup_iff_count_le_one.mp hdistinct name⟩

/-- The site with an analyzer mentioned twice by the configuration. -/
def repeatingScanner : Scanner :=
  { siteScanner with
    registry := .builtIn
    config := { enabledAnalyzers := [AnalyzerName.complexity, AnalyzerName.complexity], excludePaths := [] } }

/-- Every check of the configuration passes; yet the analyzer has two results, and its weight counts twice. -/
theorem not_isOneEach_repeatingScanner :
    let site : Project := ⟨"site", .application, "/site"⟩
    let profiles : Health.Profiles Float := .builtIn
    repeatingScanner.config.validate = .ok () ∧
      (∃ m, resolve repeatingScanner.tree site.root = .ok m) ∧
      ∃ x, repeatingScanner.scanProject site = .ok x ∧
        x.analyses.map (·.analyzer) = [AnalyzerName.complexity, AnalyzerName.complexity] ∧
        ¬IsOneEach repeatingScanner.config.enabledAnalyzers (repeatingScanner.registry.runs site.kind)
          (x.analyses.map (·.analyzer)) ∧
        (x.analyses.filterMap (Health.contribution? profiles)).map (·.profile.name) =
          [AnalyzerName.complexity, AnalyzerName.complexity] := by
  intro site profiles
  obtain ⟨m, hresolve⟩ : ∃ m, resolve repeatingScanner.tree site.root = .ok m := exists_resolve_site
  obtain ⟨subject, hsubject⟩ := exists_subject_eq_ok hresolve
  have hscan : repeatingScanner.scanProject site =
      .ok ⟨site, [Analyzer.complexity.analysis subject, Analyzer.complexity.analysis subject]⟩ :=
    scanProject_eq_ok hsubject
  have hnames : [Analyzer.complexity.analysis subject, Analyzer.complexity.analysis subject].map
      (·.analyzer) = [AnalyzerName.complexity, AnalyzerName.complexity] := rfl
  refine ⟨rfl, ⟨m, hresolve⟩, _, hscan, hnames, fun h => ?_, rfl⟩
  have hnodup := h.nodup
  rw [hnames] at hnodup
  exact absurd hnodup (by decide)

end Workspace.Scanner

end Checkup
