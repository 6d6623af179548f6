import Checkup.Analyzer.BuiltIn
import Checkup.Health.Workspace
import Checkup.Proofs.Workspace.Scan

/-!
# The order of a scan leaves no trace

Two scans of the same projects may run with different numbers of workers and finish their projects in different
orders. If neither is cancelled, both come to the same outcome, and so to the same report
(`Scanner.outcome_after_eq`).

* **Uniqueness** — an outcome is two lists in strictly ascending order of names, so it is determined by what is in
  them (`IsOutcome.unique`): the projects started and whether any were skipped, and no order of theirs.
* **All are started** — in a scan that is not cancelled nothing is skipped, so what was started in the end is the
  whole list (`Scanner.isOutcome_after_of_not_cancelled`).
* **Scans end** — with a worker at least, every scan can be brought to its end from wherever it has got to
  (`Scanner.exists_isComplete_after_append`).

The scans need not be made by one scanner: it is enough that both find out the same about each project by itself.
Two scanners with the built-in analyzers that are alike but for the number of workers asked for do
(`Scanner.scanProject_withJobs`).
-/

namespace Checkup.Workspace

open Progress

/-! ### Outcomes are determined by what is in them -/

namespace IsOutcome

variable {scanner scanner' : Scanner} {started started' skipped skipped' : List Project} {o o' : Outcome}

/-- An outcome is told by the projects that were started, in any order, and by whether any were skipped. -/
theorem unique (h : IsOutcome scanner started skipped o) (h' : IsOutcome scanner started' skipped' o')
    (hstarted : ∀ p, p ∈ started ↔ p ∈ started') (hskipped : skipped = [] ↔ skipped' = []) : o = o' := by
  have hprojects : o.projects = o'.projects := by
    refine Entries.eq_of_pairwise_lt h.projects_ascending h'.projects_ascending fun x => ?_
    simp only [h.mem_projects_iff, h'.mem_projects_iff, hstarted]
  have hfailed : o.failed = o'.failed := by
    refine Entries.eq_of_pairwise_lt h.failed_ascending h'.failed_ascending fun f => ?_
    simp only [h.mem_failed_iff, h'.mem_failed_iff, hstarted]
  have hpartial : o.isPartial = o'.isPartial := by
    rw [Bool.eq_iff_iff, h.isPartial_iff, h'.isPartial_iff]
    exact not_congr hskipped
  obtain ⟨projects, failed, isPartial⟩ := o
  obtain ⟨projects', failed', isPartial'⟩ := o'
  exact (Outcome.mk.injEq ..).mpr ⟨hprojects, hfailed, hpartial⟩

/-- An outcome is that of every scanner that finds out the same about the projects started. -/
theorem congr (h : IsOutcome scanner' started skipped o)
    (hsame : ∀ p ∈ started, scanner.scanProject p = scanner'.scanProject p) :
    IsOutcome scanner started skipped o where
  projects_ascending := h.projects_ascending
  failed_ascending := h.failed_ascending
  isPartial_iff := h.isPartial_iff
  mem_projects_iff x := by
    rw [h.mem_projects_iff]
    exact exists_congr fun p => and_congr_right fun hp => by rw [hsame p hp]
  mem_failed_iff f := by
    rw [h.mem_failed_iff]
    refine exists_congr fun p => and_congr_right fun hp => exists_congr fun e => ?_
    rw [← Scanner.scanProject_eq_error_iff, ← Scanner.scanProject_eq_error_iff, hsame p hp]

end IsOutcome

/-! ### Scans that are not cancelled -/

namespace Scanner

variable {scanner : Scanner} {workers : Nat} {projects : List Project} {events : List Event}

/-- A scan that is over and was not cancelled has started all of its projects. -/
theorem isOutcome_after_of_not_cancelled (hnames : (projects.map (·.name)).Nodup)
    (hevents : .cancel ∉ events)
    (hdone : (scanner.after workers projects false events).isComplete = true) :
    IsOutcome scanner projects [] (scanner.after workers projects false events).outcome := by
  obtain ⟨started, hprojects, -, houtcome⟩ := exists_isOutcome_after hnames hdone
  have hnone : (scanner.after workers projects false events).skipped = [] :=
    skipped_run_eq_nil scanner.skippedProject?_turn hevents
  rw [hnone, List.append_nil] at hprojects
  rwa [hnone, ← hprojects] at houtcome

/-- Whatever has happened, some further events bring a scan to its end, and none of them cancels it. -/
theorem exists_isComplete_after_append (scanner : Scanner) (projects : List Project) (hworkers : 0 < workers)
    (events : List Event) : ∃ more, .cancel ∉ more ∧
      (scanner.after workers projects false (events ++ more)).isComplete = true := by
  obtain ⟨more, hmore, hdone⟩ :=
    exists_isComplete_run hworkers scanner.turn (scanner.after workers projects false events)
  refine ⟨more, hmore, ?_⟩
  rw [after, Progress.run, List.foldl_append]
  exact hdone

/-- **Scheduling leaves no trace.** Scans of the same projects, whose names differ, that are not cancelled and find
out the same about each project by itself: with a worker at least, every scan can be brought to its end; and any two
that are over have one outcome, that of all projects, and one report but for its time, whatever their numbers of
workers and the orders in which their projects started and finished. -/
theorem outcome_after_eq {scanner' : Scanner} (hnames : (projects.map (·.name)).Nodup)
    (hsame : ∀ p ∈ projects, scanner.scanProject p = scanner'.scanProject p) (workers workers' : Nat) :
    (∀ events, .cancel ∉ events → 0 < workers → ∃ more, .cancel ∉ events ++ more ∧
        (scanner.after workers projects false (events ++ more)).isComplete = true) ∧
      ∀ events events', .cancel ∉ events → .cancel ∉ events' →
        (scanner.after workers projects false events).isComplete = true →
        (scanner'.after workers' projects false events').isComplete = true →
        let o := (scanner.after workers projects false events).outcome
        let o' := (scanner'.after workers' projects false events').outcome
        IsOutcome scanner projects [] o ∧ o = o' ∧
          ∀ (α : Type) [Measure α] (profiles : Health.Profiles α) (previous : Option α)
            (timestamp timestamp' : Time.Timestamp),
            Health.WorkspaceReport.ofOutcome profiles previous timestamp o =
              { Health.WorkspaceReport.ofOutcome profiles previous timestamp' o' with timestamp := timestamp } := by
  refine ⟨fun events hevents hworkers => ?_, fun events events' hevents hevents' hdone hdone' => ?_⟩
  · obtain ⟨more, hmore, hdone⟩ := exists_isComplete_after_append scanner projects hworkers events
    exact ⟨more, fun h => (List.mem_append.mp h).elim hevents hmore, hdone⟩
  · intro o o'
    have ho : IsOutcome scanner projects [] o := isOutcome_after_of_not_cancelled hnames hevents hdone
    have ho' : IsOutcome scanner projects [] o' :=
      (isOutcome_after_of_not_cancelled hnames hevents' hdone').congr hsame
    have heq : o = o' := ho.unique ho' (fun _ => Iff.rfl) Iff.rfl
    refine ⟨ho, heq, fun α _ profiles previous timestamp timestamp' => ?_⟩
    rw [heq]
    rfl

/-- The scanner with another number of workers asked for. -/
def withJobs (scanner : Scanner) (jobs : Option Nat) : Scanner :=
  { scanner with config := { scanner.config with jobs := jobs } }

/-- No built-in analyzer looks at the number of workers. -/
theorem analysis_jobs {analyzer : Analyzer} (hanalyzer : analyzer ∈ Registry.builtIn) (subject : Subject)
    (jobs : Option Nat) :
    analyzer.analysis { subject with config := { subject.config with jobs := jobs } } = analyzer.analysis subject := by
  simp only [Registry.builtIn, List.mem_cons, List.not_mem_nil, or_false] at hanalyzer
  rcases hanalyzer with rfl | rfl | rfl | rfl | rfl <;> rfl

theorem scanProject_withJobs (hregistry : scanner.registry = .builtIn) (jobs : Option Nat) (p : Project) :
    (scanner.withJobs jobs).scanProject p = scanner.scanProject p := by
  have hbuiltIn : ∀ analyzer ∈ scanner.analyzers p, analyzer ∈ Registry.builtIn := by
    intro analyzer hanalyzer
    obtain ⟨name, -, hget⟩ := List.mem_filterMap.mp (List.mem_filter.mp hanalyzer).1
    exact hregistry ▸ List.mem_of_find?_eq_some hget
  cases hresolve : resolve scanner.tree p.root with
  | error e => simp only [scanProject, subject, withJobs, hresolve, bind, Except.bind]
  | ok metadata =>
    simp only [scanProject, subject, withJobs, hresolve, bind, Except.bind, pure, Except.pure]
    refine congrArg (Except.ok <| ProjectScan.mk p ·) (List.map_congr_left fun analyzer hanalyzer => ?_)
    exact analysis_jobs (hbuiltIn analyzer hanalyzer) ⟨_, _, _, _, _, _⟩ jobs

/-- Three projects, one of which is missing, are scanned one after the other; and all at once by three workers, the
last of them finishing first. -/
theorem outcome_in_turn_eq_outcome_at_once :
    let scanner : Scanner := { siteScanner with registry := .builtIn }
    let site : Project := ⟨"site", .application, "/site"⟩
    let projects := [site, ⟨"missing", .library, "/missing"⟩, ⟨"copy", .library, "/site"⟩]
    let inTurn := [Event.start, .finish 0, .start, .finish 0, .start, .finish 0]
    let atOnce := [Event.start, .start, .start, .finish 2, .finish 0, .finish 0]
    let o := (scanner.after 1 projects false inTurn).outcome
    (projects.map (·.name)).Nodup ∧
      (∀ p ∈ projects, scanner.scanProject p = (scanner.withJobs (some 3)).scanProject p) ∧
      .cancel ∉ inTurn ∧ .cancel ∉ atOnce ∧
      (scanner.after 1 projects false inTurn).isComplete = true ∧
      ((scanner.withJobs (some 3)).after 3 projects false atOnce).isComplete = true ∧
      o = ((scanner.withJobs (some 3)).after 3 projects false atOnce).outcome ∧
      (∃ x ∈ o.projects, x.project = site) ∧ ∃ f ∈ o.failed, f.name = "missing" := by
  intro scanner site projects inTurn atOnce o
  have hnames : (projects.map (·.name)).Nodup := by decide
  have hsame : ∀ p ∈ projects, scanner.scanProject p = (scanner.withJobs (some 3)).scanProject p :=
    fun p _ => (scanProject_withJobs rfl (some 3) p).symm
  have hinTurn : .cancel ∉ inTurn := by decide
  have hatOnce : .cancel ∉ atOnce := by decide
  -- scans end whatever they find out
  have hdoneInTurn : (scanner.after 1 projects false inTurn).isComplete = true := by
    simp [after, Progress.run, step?, initial, isComplete, inTurn, projects]
  have hdoneAtOnce : ((scanner.withJobs (some 3)).after 3 projects false atOnce).isComplete = true := by
    simp [after, Progress.run, step?, initial, isComplete, atOnce, projects]
  obtain ⟨houtcome, heq, -⟩ := (outcome_after_eq hnames hsame 1 3).2 inTurn atOnce hinTurn hatOnce
    hdoneInTurn hdoneAtOnce
  refine ⟨hnames, hsame, hinTurn, hatOnce, hdoneInTurn, hdoneAtOnce, heq, ?_, ?_⟩
  · obtain ⟨metadata, hresolve⟩ : ∃ metadata, resolve scanner.tree site.root = .ok metadata := exists_resolve_site
    obtain ⟨x, hx⟩ := exists_scanProject_eq_ok hresolve
    exact ⟨x, (houtcome.mem_projects_iff x).mpr ⟨site, List.mem_cons_self, hx⟩, project_of_scanProject_eq_ok hx⟩
  · have hmissing : resolve scanner.tree "/missing" = .error (.missing "/missing") := by
      simp only [resolve, Files.Tree.canonical, Files.Tree.resolve, Files.Tree.follow, Files.Path.steps_eq]
      decide +kernel
    exact ⟨_, (houtcome.mem_failed_iff _).mpr
      ⟨⟨"missing", .library, "/missing"⟩, by simp [projects], _, hmissing, rfl⟩, rfl⟩

end Scanner

end Checkup.Workspace
