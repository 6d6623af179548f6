import Checkup.Proofs.Entries
import Checkup.Proofs.Files.Path
import Checkup.Proofs.Workspace.Progress
import Checkup.Workspace.Scan

/-!
# What a scan comes to

A scan may start and finish its projects in many orders and be cancelled at any moment. Once it is over, the
projects that it did not start are the last ones of the list, and its outcome is determined by those that it
did start (`IsOutcome`): the ones that can be resolved are kept, each with the results of its own analyzers,
and the others have failed (`Scanner.outcome_of_isComplete`). What is found out about one project depends on
no other, so it is what a scan of any projects finds that includes this one and is not cancelled.

The outcome lists projects by name, so the names have to differ. The scan that is run takes the projects one
after the other; it is one of these, and it always ends (`Scanner.isComplete_scan`).
-/

namespace Checkup.Workspace

open Progress

/-- A directory that holds a manifest can be resolved, whatever the manifest says. -/
theorem exists_resolve_eq_ok {tree : Files.Tree} {directory root : String}
    {manifest : ManifestKind × String} (hroot : tree.canonical directory = .ok root)
    (hdirectory : tree.isDirectory root = true) (hmanifest : manifest? tree root = some manifest) :
    ∃ metadata, resolve tree directory = .ok metadata := by
  rw [resolve, hroot]
  simp only [hdirectory, hmanifest, Bool.not_true, Bool.false_eq_true, if_false]
  exact ⟨_, rfl⟩

namespace Scanner

variable {scanner : Scanner} {p : Project} {x : ProjectScan} {e : ProjectError}

/-! ### One project -/

/-- Resolving a project is all that can go wrong with it. -/
theorem scanProject_eq_error_iff :
    scanner.scanProject p = .error e ↔ resolve scanner.tree p.root = .error e := by
  cases h : resolve scanner.tree p.root <;>
    simp [scanProject, subject, h, bind, Except.bind, pure, Except.pure]

/-- A project that can be resolved is scanned. -/
theorem exists_scanProject_eq_ok {m : Metadata} (h : resolve scanner.tree p.root = .ok m) :
    ∃ x, scanner.scanProject p = .ok x := by
  cases hscan : scanner.scanProject p with
  | ok x => exact ⟨x, rfl⟩
  | error e =>
    rw [scanProject_eq_error_iff, h] at hscan
    contradiction

theorem exists_subject_eq_ok {m : Metadata} (h : resolve scanner.tree p.root = .ok m) :
    ∃ subject, scanner.subject p = .ok subject := by
  rw [subject, h]
  exact ⟨_, rfl⟩

theorem scanProject_eq_ok {subject : Subject} (h : scanner.subject p = .ok subject) :
    scanner.scanProject p = .ok ⟨p, (scanner.analyzers p).map (·.analysis subject)⟩ := by
  rw [scanProject, h]
  rfl

theorem project_of_scanProject_eq_ok (h : scanner.scanProject p = .ok x) : x.project = p := by
  cases hsubject : scanner.subject p with
  | error e => simp [scanProject, hsubject, bind, Except.bind] at h
  | ok subject =>
    simp only [scanProject, hsubject, bind, Except.bind, pure, Except.pure, Except.ok.injEq] at h
    rw [← h]

theorem entry_turn_eq_some_iff {entry : String × ProjectScan} :
    (scanner.turn p).entry = some entry ↔ ∃ x, scanner.scanProject p = .ok x ∧ entry = (p.name, x) := by
  cases h : scanner.scanProject p with
  | ok x => simp [turn, h, Turn.entry, project_of_scanProject_eq_ok h, eq_comm]
  | error e => simp [turn, h, Turn.entry]

theorem failure_turn_eq_some_iff {f : FailedProject} : (scanner.turn p).failure = some f ↔
    ∃ e, resolve scanner.tree p.root = .error e ∧ f = ⟨p.name, e.message⟩ := by
  simp only [← scanProject_eq_error_iff]
  cases h : scanner.scanProject p with
  | ok x => simp [turn, h, Turn.failure]
  | error e => simp [turn, h, Turn.failure, eq_comm]

theorem skippedProject?_turn (scanner : Scanner) (p : Project) :
    (scanner.turn p).skippedProject? = none := by
  cases h : scanner.scanProject p <;> simp [turn, h, Turn.skippedProject?]

theorem isSkipped_turn (scanner : Scanner) (p : Project) : (scanner.turn p).isSkipped = false := by
  cases h : scanner.scanProject p <;> simp [turn, h, Turn.isSkipped]

end Scanner

/-! ### The outcome -/

/-- What a scan comes to when some projects were started and others skipped. The projects started are scanned
or have failed, by whether they can be resolved; both lists are in strictly ascending order of names. -/
structure IsOutcome (scanner : Scanner) (started skipped : List Project) (o : Outcome) : Prop where
  projects_ascending : o.projects.Pairwise fun x y => x.project.name < y.project.name
  mem_projects_iff : ∀ x, x ∈ o.projects ↔ ∃ p ∈ started, scanner.scanProject p = .ok x
  failed_ascending : o.failed.Pairwise fun f g => f.name < g.name
  mem_failed_iff : ∀ f, f ∈ o.failed ↔
    ∃ p ∈ started, ∃ e, resolve scanner.tree p.root = .error e ∧ f = ⟨p.name, e.message⟩
  isPartial_iff : o.isPartial = true ↔ skipped ≠ []

section Outcome

variable {scanner : Scanner} {turns : List Turn} {started skipped : List Project}

/-- A choice among turns that passes over the skipped ones is a choice among the projects started. -/
theorem filterMap_turns_perm {β : Type} {f : Turn → Option β} (hf : ∀ p, f (.skipped p) = none)
    (h : turns.Perm (started.map scanner.turn ++ skipped.map .skipped)) :
    (turns.filterMap f).Perm (started.filterMap fun p => f (scanner.turn p)) := by
  have hskipped : (skipped.map .skipped).filterMap f = [] := by
    rw [List.filterMap_map, List.filterMap_eq_nil_iff]
    exact fun p _ => hf p
  have hperm := h.filterMap f
  rw [List.filterMap_append, hskipped, List.append_nil, List.filterMap_map] at hperm
  exact hperm

/-- The entries of the projects started are those of the scanned ones, under their names. -/
theorem mem_filterMap_entry_iff
    (h : turns.Perm (started.map scanner.turn ++ skipped.map .skipped)) {entry : String × ProjectScan} :
    entry ∈ turns.filterMap Turn.entry ↔
      ∃ p ∈ started, ∃ x, scanner.scanProject p = .ok x ∧ entry = (p.name, x) := by
  rw [(filterMap_turns_perm (fun _ => rfl) h).mem_iff, List.mem_filterMap]
  simp only [Scanner.entry_turn_eq_some_iff]

theorem nodup_keys_filterMap_entry (hnames : (started.map (·.name)).Nodup)
    (h : turns.Perm (started.map scanner.turn ++ skipped.map .skipped)) :
    ((turns.filterMap Turn.entry).map (·.1)).Nodup := by
  rw [((filterMap_turns_perm (fun _ => rfl) h).map _).nodup_iff]
  refine Entries.nodup_map_filterMap (fun hentry => ?_) hnames
  obtain ⟨x, -, rfl⟩ := Scanner.entry_turn_eq_some_iff.mp hentry
  rfl

theorem nodup_names_filterMap_failure (hnames : (started.map (·.name)).Nodup)
    (h : turns.Perm (started.map scanner.turn ++ skipped.map .skipped)) :
    ((turns.filterMap Turn.failure).map (·.name)).Nodup := by
  rw [((filterMap_turns_perm (fun _ => rfl) h).map _).nodup_iff]
  refine Entries.nodup_map_filterMap (fun hfailure => ?_) hnames
  obtain ⟨e, -, rfl⟩ := Scanner.failure_turn_eq_some_iff.mp hfailure
  rfl

theorem isOutcome_of_turns {s : Progress} (hnames : (started.map (·.name)).Nodup)
    (h : s.turns.Perm (started.map scanner.turn ++ skipped.map .skipped)) :
    IsOutcome scanner started skipped s.outcome := by
  have hkeys := nodup_keys_filterMap_entry hnames h
  have hprojects : s.outcome.projects =
      (Entries.sort (s.turns.filterMap Turn.entry)).map (·.2) := by
    rw [outcome, Entries.merge_eq_self hkeys]
  -- an entry is kept under the name of its project
  have hentry : ∀ entry ∈ Entries.sort (s.turns.filterMap Turn.entry),
      entry.1 = entry.2.project.name := by
    intro entry hmem
    obtain ⟨p, -, x, hx, rfl⟩ :=
      (mem_filterMap_entry_iff h).mp ((Entries.sort_perm _).mem_iff.mp hmem)
    rw [Scanner.project_of_scanProject_eq_ok hx]
  constructor
  case projects_ascending =>
    rw [hprojects, List.pairwise_map]
    refine (Entries.pairwise_sort hkeys).imp_of_mem fun ha hb hlt => ?_
    rwa [← hentry _ ha, ← hentry _ hb]
  case mem_projects_iff =>
    intro x
    rw [hprojects, List.mem_map]
    simp only [(Entries.sort_perm _).mem_iff, mem_filterMap_entry_iff h]
    constructor
    · rintro ⟨_, ⟨p, hp, x, hx, rfl⟩, rfl⟩
      exact ⟨p, hp, hx⟩
    · rintro ⟨p, hp, hx⟩
      exact ⟨_, ⟨p, hp, x, hx, rfl⟩, rfl⟩
  case failed_ascending =>
    exact Entries.pairwise_mergeSort_of_nodup (nodup_names_filterMap_failure hnames h)
  case mem_failed_iff =>
    intro f
    rw [outcome, List.mem_mergeSort, (filterMap_turns_perm (fun _ => rfl) h).mem_iff,
      List.mem_filterMap]
    simp only [Scanner.failure_turn_eq_some_iff]
  case isPartial_iff =>
    rw [outcome, List.any_eq_true]
    simp only [h.mem_iff, List.mem_append, List.mem_map]
    constructor
    · rintro ⟨_, ⟨p, -, rfl⟩ | ⟨p, hp, rfl⟩, hskipped⟩
      · rw [Scanner.isSkipped_turn] at hskipped
        contradiction
      · exact List.ne_nil_of_mem hp
    · intro hne
      obtain ⟨p, hp⟩ := List.exists_mem_of_ne_nil _ hne
      exact ⟨.skipped p, Or.inr ⟨p, hp, rfl⟩, rfl⟩

end Outcome

/-! ### The fate of a project -/

/-- What can become of a project in a scan. -/
inductive Fate where
  | scanned
  | failed
  | skipped
  deriving DecidableEq, Repr

/-- Whether a project has met a fate, by the outcome of a scan and the projects that the scan skipped. In all
of them a project goes by its name. -/
def HasFate (o : Outcome) (skipped : List Project) (p : Project) : Fate → Prop
  | .scanned => ∃ x ∈ o.projects, x.project.name = p.name
  | .failed => ∃ f ∈ o.failed, f.name = p.name
  | .skipped => ∃ q ∈ skipped, q.name = p.name

namespace IsOutcome

variable {scanner : Scanner} {started skipped : List Project} {o : Outcome} {p : Project}

theorem hasFate_scanned_iff (h : IsOutcome scanner started skipped o)
    (hnames : ((started ++ skipped).map (·.name)).Nodup) (hp : p ∈ started ++ skipped) :
    HasFate o skipped p .scanned ↔ p ∈ started ∧ ∃ x, scanner.scanProject p = .ok x := by
  constructor
  · rintro ⟨x, hx, hname⟩
    obtain ⟨q, hq, hscan⟩ := (h.mem_projects_iff x).mp hx
    rw [Scanner.project_of_scanProject_eq_ok hscan] at hname
    obtain rfl := List.inj_on_of_nodup_map hnames (List.mem_append_left _ hq) hp hname
    exact ⟨hq, x, hscan⟩
  · rintro ⟨hstarted, x, hscan⟩
    exact ⟨x, (h.mem_projects_iff x).mpr ⟨p, hstarted, hscan⟩,
      congrArg Project.name (Scanner.project_of_scanProject_eq_ok hscan)⟩

theorem hasFate_failed_iff (h : IsOutcome scanner started skipped o)
    (hnames : ((started ++ skipped).map (·.name)).Nodup) (hp : p ∈ started ++ skipped) :
    HasFate o skipped p .failed ↔ p ∈ started ∧ ∃ e, scanner.scanProject p = .error e := by
  simp only [Scanner.scanProject_eq_error_iff]
  constructor
  · rintro ⟨f, hf, hname⟩
    obtain ⟨q, hq, e, he, rfl⟩ := (h.mem_failed_iff f).mp hf
    obtain rfl := List.inj_on_of_nodup_map hnames (List.mem_append_left _ hq) hp hname
    exact ⟨hq, e, he⟩
  · rintro ⟨hstarted, e, he⟩
    exact ⟨⟨p.name, e.message⟩, (h.mem_failed_iff _).mpr ⟨p, hstarted, e, he, rfl⟩, rfl⟩

theorem hasFate_skipped_iff (hnames : ((started ++ skipped).map (·.name)).Nodup)
    (hp : p ∈ started ++ skipped) : HasFate o skipped p .skipped ↔ p ∈ skipped := by
  constructor
  · rintro ⟨q, hq, hname⟩
    obtain rfl := List.inj_on_of_nodup_map hnames (List.mem_append_right _ hq) hp hname
    exact hq
  · exact fun hskipped => ⟨p, hskipped, rfl⟩

/-- Every project meets one fate and no other. -/
theorem existsUnique_hasFate (h : IsOutcome scanner started skipped o)
    (hnames : ((started ++ skipped).map (·.name)).Nodup) (hp : p ∈ started ++ skipped) :
    ∃! fate, HasFate o skipped p fate := by
  have hscanned := h.hasFate_scanned_iff hnames hp
  have hfailed := h.hasFate_failed_iff hnames hp
  have hskipped : HasFate o skipped p .skipped ↔ p ∈ skipped := hasFate_skipped_iff hnames hp
  have hapart : p ∈ started → p ∉ skipped := by
    have hnodup := hnames.of_map
    exact fun hp₁ hp₂ => List.disjoint_of_nodup_append hnodup hp₁ hp₂
  -- a project started has one fate by whether it could be scanned, one skipped was not started
  rcases List.mem_append.mp hp with hp | hp
  · cases hscan : scanner.scanProject p with
    | ok x =>
      refine ⟨.scanned, hscanned.mpr ⟨hp, x, hscan⟩, fun fate hfate => ?_⟩
      cases fate with
      | scanned => rfl
      | failed =>
        obtain ⟨-, e, he⟩ := hfailed.mp hfate
        rw [hscan] at he
        contradiction
      | skipped => exact absurd (hskipped.mp hfate) (hapart hp)
    | error e =>
      refine ⟨.failed, hfailed.mpr ⟨hp, e, hscan⟩, fun fate hfate => ?_⟩
      cases fate with
      | scanned =>
        obtain ⟨-, x, hx⟩ := hscanned.mp hfate
        rw [hscan] at hx
        contradiction
      | failed => rfl
      | skipped => exact absurd (hskipped.mp hfate) (hapart hp)
  · refine ⟨.skipped, hskipped.mpr hp, fun fate hfate => ?_⟩
    cases fate with
    | scanned => exact absurd hp (hapart (hscanned.mp hfate).1)
    | failed => exact absurd hp (hapart (hfailed.mp hfate).1)
    | skipped => rfl

end IsOutcome

/-! ### Scans that are over -/

namespace Scanner

/-- A scan of projects after some events, with so many workers. -/
def after (scanner : Scanner) (workers : Nat) (projects : List Project) (cancelled : Bool)
    (events : List Event) : Progress :=
  (Progress.initial projects cancelled).run workers scanner.turn events

variable {scanner : Scanner} {workers : Nat} {projects : List Project} {cancelled : Bool}
  {events : List Event}

theorem scan_eq_after (scanner : Scanner) (projects : List Project) (cancelled : Bool) :
    scanner.scan projects cancelled = scanner.after (scanner.config.workerCount 1) projects cancelled
      (eventsInOrder scanner.interrupts cancelled projects) :=
  rfl

/-- The scan that takes the projects one after the other comes to an end. -/
theorem isComplete_scan (scanner : Scanner) (projects : List Project) (cancelled : Bool) :
    (scanner.scan projects cancelled).isComplete = true := by
  rw [scan_eq_after]
  exact isComplete_run_eventsInOrder (Config.workerCount_pos Nat.one_pos scanner.config) scanner.turn
    scanner.interrupts rfl rfl rfl

/-- A scan that is over has started a first part of the projects and skipped the rest, and its outcome is that
of the first part. -/
theorem exists_isOutcome_after (hnames : (projects.map (·.name)).Nodup)
    (hdone : (scanner.after workers projects cancelled events).isComplete = true) :
    ∃ started, projects = started ++ (scanner.after workers projects cancelled events).skipped ∧
      (scanner.after workers projects cancelled events).turns.Perm (started.map scanner.turn ++
        (scanner.after workers projects cancelled events).skipped.map .skipped) ∧
      IsOutcome scanner started (scanner.after workers projects cancelled events).skipped
        (scanner.after workers projects cancelled events).outcome := by
  obtain ⟨started, haccounts⟩ : ∃ started, Accounts scanner.turn projects started
      (scanner.after workers projects cancelled events) :=
    accounts_run scanner.skippedProject?_turn events cancelled
  obtain ⟨hprojects, hturns⟩ := haccounts.of_isComplete hdone
  have hstarted : (started.map (·.name)).Nodup := by
    rw [hprojects, List.map_append] at hnames
    exact (List.nodup_append.mp hnames).1
  exact ⟨started, hprojects, hturns, isOutcome_of_turns hstarted hturns⟩

/-- A project that can be resolved is in the outcome of every scan that includes it and is not cancelled. -/
theorem mem_projects_outcome_after_of_not_cancelled (hnames : (projects.map (·.name)).Nodup)
    (hevents : .cancel ∉ events)
    (hdone : (scanner.after workers projects false events).isComplete = true) {p : Project}
    (hp : p ∈ projects) {x : ProjectScan} (hx : scanner.scanProject p = .ok x) :
    x ∈ (scanner.after workers projects false events).outcome.projects := by
  obtain ⟨started, hprojects, -, houtcome⟩ := exists_isOutcome_after hnames hdone
  have hnone : (scanner.after workers projects false events).skipped = [] :=
    skipped_run_eq_nil scanner.skippedProject?_turn hevents
  rw [hnone, List.append_nil] at hprojects
  exact (houtcome.mem_projects_iff x).mpr ⟨p, hprojects ▸ hp, hx⟩

/-- **A scan that is over**, whatever happened in which order: its projects are those started, then those
skipped; the outcome is that of the projects started; every project has met one fate; and what was found out
about a project that was started is what every scan that is not cancelled finds out about it, whichever the
other projects and the number of workers. -/
theorem outcome_of_isComplete (scanner : Scanner) (workers : Nat) (projects : List Project)
    (hnames : (projects.map (·.name)).Nodup) (cancelled : Bool) (events : List Event)
    (hdone : (scanner.after workers projects cancelled events).isComplete = true) :
    let s := scanner.after workers projects cancelled events
    ∃ started, projects = started ++ s.skipped ∧
      s.turns.Perm (started.map scanner.turn ++ s.skipped.map .skipped) ∧
      IsOutcome scanner started s.skipped s.outcome ∧
      (∀ p ∈ projects, ∃! fate, HasFate s.outcome s.skipped p fate) ∧
      ∀ p ∈ started, ∀ metadata, resolve scanner.tree p.root = .ok metadata →
        ∃ x ∈ s.outcome.projects, x.project = p ∧
          ∀ workers' projects' events', p ∈ projects' → (projects'.map (·.name)).Nodup →
            .cancel ∉ events' → (scanner.after workers' projects' false events').isComplete = true →
            x ∈ (scanner.after workers' projects' false events').outcome.projects := by
  intro s
  obtain ⟨started, hprojects, hturns, houtcome⟩ := exists_isOutcome_after hnames hdone
  refine ⟨started, hprojects, hturns, houtcome, fun p hp => ?_, fun p hp metadata hresolve => ?_⟩
  · refine houtcome.existsUnique_hasFate ?_ (hprojects ▸ hp)
    rwa [← hprojects]
  · obtain ⟨x, hx⟩ := exists_scanProject_eq_ok hresolve
    refine ⟨x, (houtcome.mem_projects_iff x).mpr ⟨p, hp, hx⟩, project_of_scanProject_eq_ok hx, ?_⟩
    intro workers' projects' events' hp' hnames' hevents' hdone'
    exact mem_projects_outcome_after_of_not_cancelled hnames' hevents' hdone' hp' hx

/-- A scanner of a tree in which one directory holds a manifest. Its one analyzer cancels the scan and breaks
down. -/
def siteScanner : Scanner where
  tree := ⟨.directory [("site", .directory [("package.json", .file (.text "\x7b\x7d"))])], "/"⟩
  run := ⟨fun _ _ => .error (.notStarted .missing), fun _ => 5⟩
  registry :=
    [⟨AnalyzerName.complexity, fun _ => true, fun _ => .error (.breakdown "out of range"), fun _ => true⟩]
  config := {}
  exclusion := ⟨[]⟩

theorem exists_resolve_site : ∃ metadata, resolve siteScanner.tree "/site" = .ok metadata := by
  have hroot : siteScanner.tree.canonical "/site" = .ok "/site" := by
    simp only [Files.Tree.canonical, Files.Tree.resolve, Files.Tree.follow, Files.Path.steps_eq]
    decide +kernel
  have hdirectory : siteScanner.tree.isDirectory "/site" = true := by
    simp only [Files.Tree.isDirectory, Files.Tree.resolve, Files.Tree.follow, Files.Path.steps_eq]
    decide +kernel
  have hmanifest : manifest? siteScanner.tree "/site" = some (.packageJson, "/site/package.json") := by
    simp only [manifest?, Files.Tree.isFile, Files.Tree.resolve, Files.Tree.follow, Files.Path.steps_eq]
    decide +kernel
  exact exists_resolve_eq_ok hroot hdirectory hmanifest

/-- Two projects are in flight when the first cancels the scan. The second, whose directory is missing, fails;
the third is skipped; and the first is kept. -/
theorem outcome_of_site_and_missing :
    let site : Project := ⟨"site", .application, "/site"⟩
    let missing : Project := ⟨"missing", .library, "/missing"⟩
    let copy : Project := ⟨"copy", .library, "/site"⟩
    let s := siteScanner.after 2 [site, missing, copy] false
      [.start, .start, .cancel, .finish 1, .start, .finish 0]
    s.isComplete = true ∧ IsOutcome siteScanner [site, missing] [copy] s.outcome ∧
      ∃ x ∈ s.outcome.projects, x.project = site := by
  intro site missing copy s
  have hdone : s.isComplete = true := rfl
  have hskipped : s.skipped = [copy] := by
    change [siteScanner.turn missing, .skipped copy, siteScanner.turn site].filterMap
      Turn.skippedProject? = [copy]
    have hcopy : (Turn.skipped copy).skippedProject? = some copy := rfl
    simp only [List.filterMap_cons, skippedProject?_turn, hcopy, List.filterMap_nil]
  obtain ⟨started, hprojects, -, houtcome, -, hkept⟩ :=
    outcome_of_isComplete siteScanner 2 [site, missing, copy] (by decide) false _ hdone
  change [site, missing, copy] = started ++ s.skipped at hprojects
  change IsOutcome siteScanner started s.skipped s.outcome at houtcome
  rw [hskipped] at hprojects houtcome
  obtain rfl : [site, missing] = started := List.append_cancel_right hprojects
  obtain ⟨metadata, hresolve⟩ := exists_resolve_site
  obtain ⟨x, hx, hproject, -⟩ := hkept site List.mem_cons_self metadata hresolve
  exact ⟨hdone, houtcome, x, hx, hproject⟩

end Scanner

end Checkup.Workspace
