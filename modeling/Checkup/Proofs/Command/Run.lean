import Checkup.Command.Run
import Checkup.Proofs.Analyzer.Overflow
import Checkup.Proofs.Files.Tree
import Checkup.Proofs.Health.Finite
import Checkup.Proofs.Workspace.Scan

/-!
# How a scan ends

A scan of a workspace goes through four stages that can refuse it before a project is looked at: its
configuration, an earlier report, the discovery of projects and the selection of one. If any does, the scan ends
with the code 2 and leaves the file tree as it was. Otherwise it makes a report and writes it, and the code
tells whether the report has failures (`runScan_spec`).

* **Refusals** (`IsRefused`) — the ways in which a stage can fail, in terms of files, their texts and the checks
  of a configuration. There is no other way to get no report (`reportFor_cases`): a configuration that passes
  its checks has patterns that compile. A group of projects cannot be listed if its directory is sealed
  (`IsRefused.of_sealed`).
* **Delivery** (`Delivers`) — the text is on the standard output, or at the path that it was written to. In
  either case nothing else in the tree is changed.
* **Reading back** — what was written as JSON is loaded as the report, so the code can be told from the file
  alone, by the same profiles. No number of the report is infinite or none, so there is a numeral for each of
  them.
-/

namespace Checkup.Command

/-! ### Refusals -/

/-- The file that the configuration of a scan is read from, if there is one. -/
def configPath? (tree : Files.Tree) (arguments : ScanArguments) : Option String :=
  arguments.config.or (Config.find? tree arguments.root)

/-- The configuration of a scan before it is checked: the one in its file or, without a file, the default. The
number of workers that was asked for counts. -/
inductive IsConfig (tree : Files.Tree) (arguments : ScanArguments) : Config Float → Prop
  | ofFile {path text : String} {config : Config Float} (hpath : configPath? tree arguments = some path)
    (htext : tree.readText path = .ok text) (hconfig : Config.parse? text = some config) :
    IsConfig tree arguments { config with jobs := arguments.jobs.or config.jobs }
  | default (hpath : configPath? tree arguments = none) : IsConfig tree arguments { jobs := arguments.jobs }

/-- A stage before the scan of the projects fails. -/
inductive IsRefused (tree : Files.Tree) (arguments : ScanArguments) : Prop
  | configUnreadable {path : String} {cause : Files.FileError} (hpath : configPath? tree arguments = some path)
    (h : tree.readText path = .error cause)
  | configMalformed {path text : String} (hpath : configPath? tree arguments = some path)
    (htext : tree.readText path = .ok text) (h : Config.parse? text = none)
  | configInvalid {config : Config Float} {error : ConfigError Float} (hconfig : IsConfig tree arguments config)
    (h : config.validate = .error error)
  | previousUnreadable {path : String} {cause : Files.FileError} (hpath : arguments.previous = some path)
    (h : tree.readText path = .error cause)
  | previousMalformed {path text : String} (hpath : arguments.previous = some path)
    (htext : tree.readText path = .ok text) (h : Health.WorkspaceReport.parse? text = none)
  | rootNotDirectory (h : tree.isDirectory arguments.root = false)
  | groupUnreadable {config : Config Float} {group : String × Workspace.ProjectKind} {cause : Files.FileError}
    (hconfig : IsConfig tree arguments config) (hgroup : group ∈ Workspace.groups config.workspace)
    (hdirectory : tree.isDirectory (Workspace.groupPath arguments.root group.1) = true)
    (h : tree.entries (Workspace.groupPath arguments.root group.1) = .error cause)
  | projectUnknown {config : Config Float} {projects : List Workspace.Project} {name : String}
    (hconfig : IsConfig tree arguments config) (hname : arguments.project = some name)
    (hprojects : Workspace.discover tree arguments.root config.workspace = .ok projects)
    (h : name ∉ projects.map (·.name))

/-! ### Stages -/

section Except

variable {ε α β : Type}

/-- A computation in two parts fails if one of them does. -/
theorem exists_bind_eq_error_iff {x : Except ε α} {f : α → Except ε β} :
    (∃ e, (x >>= f) = .error e) ↔ (∃ e, x = .error e) ∨ ∃ a, x = .ok a ∧ ∃ e, f a = .error e := by
  cases x <;> simp [bind, Except.bind]

/-- A pass that needs a result for each entry fails if there is none for one. -/
theorem exists_foldlM_eq_error_iff {γ : Type} {f : α → Except ε γ} {g : β → α → γ → β} {l : List α} {b : β} :
    (∃ e, l.foldlM (fun b a => f a >>= fun c => pure (g b a c)) b = .error e) ↔ ∃ a ∈ l, ∃ e, f a = .error e := by
  induction l generalizing b with
  | nil => exact iff_of_false nofun nofun
  | cons a rest ih =>
    rw [List.foldlM_cons, exists_bind_eq_error_iff, List.exists_mem_cons_iff]
    cases f a with
    | error e => exact iff_of_true (.inl ⟨e, rfl⟩) (.inl ⟨e, rfl⟩)
    | ok c =>
      constructor
      · rintro (⟨e, h⟩ | ⟨b', hb, hrest⟩)
        · contradiction
        · exact .inr (ih.mp hrest)
      · rintro (⟨e, h⟩ | hrest)
        · contradiction
        · exact .inr ⟨_, rfl, ih.mpr hrest⟩

theorem eq_ok_of_isOk {x : Except ε Unit} (h : x.isOk = true) : x = .ok () := by
  cases x with
  | ok => rfl
  | error => contradiction

end Except

section Stages

variable {tree : Files.Tree} {arguments : ScanArguments}

/-- A scan has one configuration. -/
theorem IsConfig.unique {config config' : Config Float} (h : IsConfig tree arguments config)
    (h' : IsConfig tree arguments config') : config = config' := by
  cases h with
  | ofFile hpath htext hconfig =>
    cases h' with
    | ofFile hpath' htext' hconfig' =>
      obtain rfl := Option.some.inj (hpath.symm.trans hpath')
      obtain rfl := Except.ok.inj (htext.symm.trans htext')
      obtain rfl := Option.some.inj (hconfig.symm.trans hconfig')
      rfl
    | default hpath' => exact absurd (hpath.symm.trans hpath') nofun
  | default hpath =>
    cases h' with
    | ofFile hpath' => exact absurd (hpath.symm.trans hpath') nofun
    | default => rfl

/-- A scan is refused if the directory of a group is there but sealed. -/
theorem IsRefused.of_sealed {config : Config Float} {group : String × Workspace.ProjectKind} {place : List String}
    {cause : Files.FileError} (hconfig : IsConfig tree arguments config)
    (hgroup : group ∈ Workspace.groups config.workspace)
    (h : tree.resolve (Workspace.groupPath arguments.root group.1) = .ok (place, .sealed cause)) :
    IsRefused tree arguments := by
  obtain ⟨hdirectory, hentries⟩ := Files.Tree.isDirectory_and_entries_eq_error_iff.mpr ⟨place, h⟩
  exact .groupUnreadable hconfig hgroup hdirectory hentries

/-- The configuration of a scan before it is checked. -/
def readConfig (tree : Files.Tree) (arguments : ScanArguments) : Except (ConfigError Float) (Config Float) :=
  match configPath? tree arguments with
  | some path => Config.load tree path
  | none => .ok {}

theorem configFor_eq (tree : Files.Tree) (arguments : ScanArguments) :
    configFor tree arguments = readConfig tree arguments >>= fun config =>
      let config := { config with jobs := arguments.jobs.or config.jobs }
      config.validate >>= fun _ => .ok config := by
  rw [configFor, readConfig, configPath?]
  cases arguments.config with
  | some path => rfl
  | none =>
    rw [Option.none_or, Config.discover]
    cases Config.find? tree arguments.root with
    | none => rfl
    | some path =>
      dsimp only
      cases Config.load tree path <;> rfl

theorem readConfig_cases (tree : Files.Tree) (arguments : ScanArguments) :
    (∃ config, readConfig tree arguments = .ok config ∧
        IsConfig tree arguments { config with jobs := arguments.jobs.or config.jobs }) ∨
      (∃ e, readConfig tree arguments = .error e) ∧ IsRefused tree arguments := by
  rw [readConfig]
  cases hpath : configPath? tree arguments with
  | none => exact .inl ⟨_, rfl, (Option.or_none (o := arguments.jobs)).symm ▸ .default hpath⟩
  | some path =>
    dsimp only
    rw [Config.load]
    cases htext : tree.readText path with
    | error cause => exact .inr ⟨⟨_, rfl⟩, .configUnreadable hpath htext⟩
    | ok text =>
      dsimp only
      cases hconfig : Config.parse? text with
      | none => exact .inr ⟨⟨_, rfl⟩, .configMalformed hpath htext hconfig⟩
      | some config => exact .inl ⟨config, rfl, .ofFile hpath htext hconfig⟩

/-- The configuration of a scan is there and passes its checks, or the scan is refused. -/
theorem configFor_cases (tree : Files.Tree) (arguments : ScanArguments) :
    (∃ config, configFor tree arguments = .ok config ∧ IsConfig tree arguments config ∧
        config.validate = .ok ()) ∨
      (∃ e, configFor tree arguments = .error e) ∧ IsRefused tree arguments := by
  rw [configFor_eq]
  rcases readConfig_cases tree arguments with ⟨config, hread, hconfig⟩ | ⟨⟨e, hread⟩, hrefused⟩
  · rw [hread]
    cases hvalid : { config with jobs := arguments.jobs.or config.jobs : Config Float }.validate with
    | ok => exact .inl ⟨_, by simp only [bind, Except.bind, hvalid], hconfig, hvalid⟩
    | error e => exact .inr ⟨⟨e, by simp only [bind, Except.bind, hvalid]⟩, .configInvalid hconfig hvalid⟩
  · rw [hread]
    exact .inr ⟨⟨e, rfl⟩, hrefused⟩

theorem previousScore_cases (tree : Files.Tree) (arguments : ScanArguments) :
    (∃ previous, previousScore tree arguments.previous = .ok previous) ∨
      (∃ e, previousScore tree arguments.previous = .error e) ∧ IsRefused tree arguments := by
  cases hpath : arguments.previous with
  | none => exact .inl ⟨none, rfl⟩
  | some path =>
    rw [previousScore]
    cases htext : tree.readText path with
    | error cause => exact .inr ⟨⟨_, rfl⟩, .previousUnreadable hpath htext⟩
    | ok text =>
      dsimp only
      cases hreport : Health.WorkspaceReport.parse? text with
      | none => exact .inr ⟨⟨_, rfl⟩, .previousMalformed hpath htext hreport⟩
      | some report => exact .inl ⟨_, rfl⟩

theorem exists_groupDirectories_eq_error_iff {root group : String} :
    (∃ e, Workspace.groupDirectories tree root group = .error e) ↔
      tree.isDirectory (Workspace.groupPath root group) = true ∧
        ∃ cause, tree.entries (Workspace.groupPath root group) = .error cause := by
  rw [Workspace.groupDirectories]
  cases tree.isDirectory (Workspace.groupPath root group) with
  | false => exact iff_of_false nofun nofun
  | true =>
    rw [if_pos rfl, Workspace.childDirectories]
    cases tree.entries (Workspace.groupPath root group) with
    | error cause => exact iff_of_true ⟨_, rfl⟩ ⟨rfl, cause, rfl⟩
    | ok => exact iff_of_false nofun nofun

theorem exists_groupedProjects_eq_error_iff {root : String} {layout : Layout} :
    (∃ e, Workspace.groupedProjects tree root layout = .error e) ↔ ∃ group ∈ Workspace.groups layout,
      tree.isDirectory (Workspace.groupPath root group.1) = true ∧
        ∃ cause, tree.entries (Workspace.groupPath root group.1) = .error cause := by
  simp only [← exists_groupDirectories_eq_error_iff]
  exact exists_foldlM_eq_error_iff
    (f := fun group : String × Workspace.ProjectKind => Workspace.groupDirectories tree root group.1)
    (g := fun projects group names => names.foldl (Workspace.addProject root group.1 group.2) projects)

theorem exists_discover_eq_error_iff {root : String} {layout : Layout} :
    (∃ e, Workspace.discover tree root layout = .error e) ↔
      tree.isDirectory root = false ∨ ∃ e, Workspace.groupedProjects tree root layout = .error e := by
  rw [Workspace.discover]
  cases tree.isDirectory root with
  | false => exact iff_of_true ⟨_, rfl⟩ (.inl rfl)
  | true =>
    simp only [Bool.not_true, Bool.false_eq_true, if_false, reduceCtorEq, false_or]
    rw [exists_bind_eq_error_iff]
    exact or_iff_left nofun

/-- The projects to scan are not known if the workspace or a group of it cannot be listed, or if there is no project
of the name that was asked for. -/
theorem exists_projectsFor_eq_error_iff {layout : Layout} :
    (∃ e, projectsFor tree arguments layout = .error e) ↔
      (∃ e, Workspace.discover tree arguments.root layout = .error e) ∨
        ∃ projects, Workspace.discover tree arguments.root layout = .ok projects ∧
          ∃ name, arguments.project = some name ∧ name ∉ projects.map (·.name) := by
  rw [projectsFor, exists_bind_eq_error_iff]
  refine or_congr_right (exists_congr fun projects => and_congr_right fun _ => ?_)
  cases arguments.project with
  | none => exact iff_of_false nofun nofun
  | some name =>
    have hfind : projects.find? (·.name == name) = none ↔ name ∉ projects.map (·.name) := by
      simp [List.find?_eq_none]
    rw [Workspace.select]
    cases hproject : projects.find? (·.name == name) with
    | none => exact iff_of_true ⟨_, rfl⟩ ⟨name, rfl, hfind.mp hproject⟩
    | some project =>
      refine iff_of_false nofun ?_
      rintro ⟨_, hname, hunknown⟩
      obtain rfl := Option.some.inj hname
      rw [hfind.mpr hunknown] at hproject
      contradiction

theorem projectsFor_cases {config : Config Float} (hconfig : IsConfig tree arguments config) :
    (∃ projects, projectsFor tree arguments config.workspace = .ok projects) ∨
      (∃ e, projectsFor tree arguments config.workspace = .error e) ∧ IsRefused tree arguments := by
  cases hprojects : projectsFor tree arguments config.workspace with
  | ok projects => exact .inl ⟨projects, rfl⟩
  | error e =>
    refine .inr ⟨⟨e, rfl⟩, ?_⟩
    rcases exists_projectsFor_eq_error_iff.mp ⟨e, hprojects⟩ with hdiscover | ⟨all, hall, name, hname, hunknown⟩
    · rcases exists_discover_eq_error_iff.mp hdiscover with hroot | hgroups
      · exact .rootNotDirectory hroot
      · obtain ⟨group, hgroup, hdirectory, cause, h⟩ := exists_groupedProjects_eq_error_iff.mp hgroups
        exact .groupUnreadable hconfig hgroup hdirectory h
    · exact .projectUnknown hconfig hname hall hunknown

/-- Nothing is refused once all stages have come to a result. -/
theorem not_isRefused {config : Config Float} {previous : Option Float} {projects : List Workspace.Project}
    (hconfig : IsConfig tree arguments config) (hvalid : config.validate = .ok ())
    (hprevious : previousScore tree arguments.previous = .ok previous)
    (hprojects : projectsFor tree arguments config.workspace = .ok projects) : ¬IsRefused tree arguments := by
  intro hrefused
  have hlisted : ¬∃ e, projectsFor tree arguments config.workspace = .error e := by
    rw [hprojects]
    exact nofun
  rw [exists_projectsFor_eq_error_iff, not_or, exists_discover_eq_error_iff, not_or,
    exists_groupedProjects_eq_error_iff] at hlisted
  obtain ⟨⟨hroot, hgroups⟩, hselected⟩ := hlisted
  cases hrefused with
  | configUnreadable hpath h =>
    cases hconfig with
    | ofFile hpath' htext =>
      obtain rfl := Option.some.inj (hpath.symm.trans hpath')
      exact absurd (h.symm.trans htext) nofun
    | default hpath' => exact absurd (hpath.symm.trans hpath') nofun
  | configMalformed hpath htext h =>
    cases hconfig with
    | ofFile hpath' htext' hparse =>
      obtain rfl := Option.some.inj (hpath.symm.trans hpath')
      obtain rfl := Except.ok.inj (htext.symm.trans htext')
      exact absurd (h.symm.trans hparse) nofun
    | default hpath' => exact absurd (hpath.symm.trans hpath') nofun
  | configInvalid hconfig' h =>
    obtain rfl := hconfig.unique hconfig'
    exact absurd (h.symm.trans hvalid) nofun
  | previousUnreadable hpath h =>
    rw [hpath, previousScore, h] at hprevious
    contradiction
  | previousMalformed hpath htext h =>
    rw [hpath, previousScore, htext] at hprevious
    dsimp only at hprevious
    rw [h] at hprevious
    contradiction
  | rootNotDirectory h => exact hroot h
  | groupUnreadable hconfig' hgroup hdirectory h =>
    obtain rfl := hconfig.unique hconfig'
    exact hgroups ⟨_, hgroup, hdirectory, _, h⟩
  | projectUnknown hconfig' hname hall h =>
    obtain rfl := hconfig.unique hconfig'
    exact hselected ⟨_, hall, _, hname, h⟩

/-- A configuration that passes its checks has patterns that compile. -/
theorem exists_exclusion_of_validate {config : Config Float} (h : config.validate = .ok ()) :
    ∃ exclusion, config.exclusion = .ok exclusion := by
  obtain ⟨exclusion, hexclusion, -⟩ := exists_bind_eq_ok_iff.mp ⟨_, h⟩
  exact ⟨exclusion, hexclusion⟩

end Stages

/-! ### The report of a scan -/

/-- A scan of the projects of a workspace under a configuration has an outcome, and a report is the one on it. -/
def IsReport (setting : Setting) (arguments : ScanArguments) (config : Config Float) (outcome : Workspace.Outcome)
    (report : Health.WorkspaceReport Float) : Prop :=
  ∃ previous projects exclusion, previousScore setting.tree arguments.previous = .ok previous ∧
    projectsFor setting.tree arguments config.workspace = .ok projects ∧ config.exclusion = .ok exclusion ∧
    let scanner : Workspace.Scanner := ⟨setting.tree, setting.run, .builtIn, config, exclusion⟩
    outcome = (scanner.scan projects false).outcome ∧
      report = .ofOutcome (.ofConfig config) previous setting.now outcome

section Report

variable {setting : Setting} {arguments : ScanArguments}

/-- Either all stages come to a result and there is a report, or the scan is refused. -/
theorem reportFor_cases (setting : Setting) (arguments : ScanArguments) :
    (¬IsRefused setting.tree arguments ∧ ∃ config outcome report, configFor setting.tree arguments = .ok config ∧
        IsReport setting arguments config outcome report ∧
        reportFor setting arguments = .ok (.ofConfig config, report)) ∨
      IsRefused setting.tree arguments ∧ ∃ e, reportFor setting arguments = .error e := by
  rcases configFor_cases setting.tree arguments with ⟨config, hfor, hconfig, hvalid⟩ | ⟨⟨e, hfor⟩, hrefused⟩
  · rcases previousScore_cases setting.tree arguments with ⟨previous, hprevious⟩ | ⟨⟨e, hprevious⟩, hrefused⟩
    · rcases projectsFor_cases hconfig with ⟨projects, hprojects⟩ | ⟨⟨e, hprojects⟩, hrefused⟩
      · obtain ⟨exclusion, hexclusion⟩ := exists_exclusion_of_validate hvalid
        refine .inl ⟨not_isRefused hconfig hvalid hprevious hprojects, config, _, _, hfor,
          ⟨previous, projects, exclusion, hprevious, hprojects, hexclusion, rfl, rfl⟩, ?_⟩
        simp only [reportFor, hfor, hprevious, hprojects, hexclusion, Except.mapError, bind, Except.bind]
        rfl
      · refine .inr ⟨hrefused, .discovery e, ?_⟩
        simp only [reportFor, hfor, hprevious, hprojects, Except.mapError, bind, Except.bind]
    · refine .inr ⟨hrefused, e, ?_⟩
      simp only [reportFor, hfor, hprevious, Except.mapError, bind, Except.bind]
  · refine .inr ⟨hrefused, .config e, ?_⟩
    simp only [reportFor, hfor, Except.mapError, bind, Except.bind]

end Report

/-! ### Writing the report -/

/-- The text of a report in a form. -/
def reportText (format : Format) (profiles : Health.Profiles Float) (report : Health.WorkspaceReport Float) :
    String :=
  match format with
  | .json => report.jsonText
  | .html => report.page profiles

/-- A command has left a text on the standard output or, if it writes a file, at the path of the file. In the tree
that it was run on, nothing else has changed. -/
def Delivers (tree : Files.Tree) (target : Option String) (text : String) (result : Result) : Prop :=
  match target with
  | none => result.stdout = text ∧ result.tree = tree
  | some path => ∃ place, result.tree.resolve path = .ok (place, .file (.text text)) ∧
      ∀ other ≠ place, (result.tree.root.at? other).map Files.Node.alone = (tree.root.at? other).map Files.Node.alone

theorem writeAndSummarize_spec {tree : Files.Tree} {path : String} (text summary : String) (code : Nat)
    (h : ∃ place, tree.placeToWrite path = .ok place) :
    Delivers tree (some path) text (writeAndSummarize tree path text summary code) ∧
      (writeAndSummarize tree path text summary code).ending = .ok code := by
  obtain ⟨place, hplace⟩ := h
  have hwrite : tree.writeText path text =
      .ok { tree with root := Files.Node.put (.file (.text text)) place tree.root } := by
    rw [Files.Tree.writeText, hplace]
    rfl
  rw [writeAndSummarize, hwrite]
  exact ⟨Files.Tree.exists_resolve_of_writeText_eq_ok hwrite, rfl⟩

/-- If the output can be written, the report is, and the code tells whether it has failures. -/
theorem writeReport_spec {setting : Setting} {arguments : ScanArguments} (profiles : Health.Profiles Float)
    (report : Health.WorkspaceReport Float)
    (h : ∀ path, (Action.scan arguments).target? = some path →
      ∃ place, setting.tree.placeToWrite path = .ok place) :
    Delivers setting.tree (Action.scan arguments).target? (reportText arguments.format profiles report)
        (writeReport setting arguments profiles report) ∧
      (writeReport setting arguments profiles report).ending =
        .ok (if report.hasFailures profiles then 1 else 0) := by
  rw [writeReport, Action.target?] at *
  cases hformat : arguments.format with
  | html =>
    rw [hformat] at h
    exact writeAndSummarize_spec _ _ _ (h _ rfl)
  | json =>
    rw [hformat] at h
    dsimp only at h ⊢
    cases houtput : arguments.output with
    | none => exact ⟨⟨rfl, rfl⟩, rfl⟩
    | some path => exact writeAndSummarize_spec _ _ _ (h path houtput)

/-- What is written for a report as JSON is loaded as the report. -/
theorem parse?_jsonText_of_isReport {setting : Setting} {arguments : ScanArguments} {config : Config Float}
    {outcome : Workspace.Outcome} {report : Health.WorkspaceReport Float}
    (h : IsReport setting arguments config outcome report) (hcounts : ∀ n ∈ outcome.counts, n < Word.size)
    (hissues : ∀ c ∈ report.criticalIssues, c.2 < Word.size)
    (hnumbers : ∀ x ∈ report.floats, x.isFinite = true → Json.ReadsBack x)
    (hnow : Time.Timestamp.parse? setting.now.text = some setting.now) :
    Health.WorkspaceReport.parse? report.jsonText = some report := by
  obtain ⟨previous, projects, exclusion, -, -, -, -, hreport⟩ := h
  have htimestamp : Time.Timestamp.parse? report.timestamp.text = some report.timestamp := by
    rw [hreport]
    exact hnow
  have hmaps : report.IsMapped := by
    rw [hreport] at hissues ⊢
    exact Health.WorkspaceReport.isMapped_ofOutcome hissues
  have hreads : ∀ x ∈ report.floats, Json.ReadsBack x := by
    refine fun x hx => hnumbers x hx ?_
    rw [hreport] at hx
    exact Health.WorkspaceReport.isFinite_ofOutcome hcounts x hx
  have htext : report.jsonText.toList = Json.print true 0 report.toJson ++ ['\n'] := by
    simp [Health.WorkspaceReport.jsonText, Json.pretty]
  have hparse : Json.parse? report.jsonText.toList = some report.toJson := by
    rw [htext]
    exact (Health.WorkspaceReport.isPlain_toJson hreads).parse?_print_append true (by simp [Json.isSpace])
  rw [Health.WorkspaceReport.parse?, hparse, Option.bind_eq_bind, Option.bind_some,
    Health.WorkspaceReport.ofJson?_toJson hmaps hreads htimestamp]

/-! ### The whole run -/

/-- **How a scan ends.** If a stage refuses, the code is 2 and the file tree is as it was. Otherwise there is a
report on the outcome of the scan under the configuration. Provided that its output can be written, it is, and
the code is 1 or 0, as the report has failures by the profiles of the configuration or not. What was written as
JSON is loaded as a report that has failures exactly if the code is 1: as long as what was counted are words,
and the codecs of finite numbers and of times read back what they write for the report. -/
theorem runScan_spec (setting : Setting) (arguments : ScanArguments) :
    let result := runScan setting arguments
    let target := (Action.scan arguments).target?
    (IsRefused setting.tree arguments → result.ending = .ok 2 ∧ result.tree = setting.tree) ∧
      (¬IsRefused setting.tree arguments → ∃ config outcome report, configFor setting.tree arguments = .ok config ∧
        IsReport setting arguments config outcome report ∧
        let profiles := Health.Profiles.ofConfig config
        let text := reportText arguments.format profiles report
        ((∀ path, target = some path → ∃ place, setting.tree.placeToWrite path = .ok place) →
          Delivers setting.tree target text result ∧
          result.ending = .ok (if report.hasFailures profiles then 1 else 0) ∧
          (arguments.format = .json → (∀ n ∈ outcome.counts, n < Word.size) →
            (∀ c ∈ report.criticalIssues, c.2 < Word.size) →
            (∀ x ∈ report.floats, x.isFinite = true → Json.ReadsBack x) →
            Time.Timestamp.parse? setting.now.text = some setting.now →
            ∃ loaded, Health.WorkspaceReport.parse? text = some loaded ∧
              (loaded.hasFailures profiles = true ↔ result.ending = .ok 1)))) := by
  intro result target
  rcases reportFor_cases setting arguments with
    ⟨hnot, config, outcome, report, hfor, hreport, hok⟩ | ⟨hrefused, e, herror⟩
  · refine ⟨fun hrefused => absurd hrefused hnot,
      fun _ => ⟨config, outcome, report, hfor, hreport, fun hwritable => ?_⟩⟩
    have hresult : result = writeReport setting arguments (.ofConfig config) report := by
      simp only [result, runScan, hok]
    obtain ⟨hdelivers, hending⟩ := writeReport_spec (.ofConfig config) report hwritable
    rw [hresult]
    refine ⟨hdelivers, hending, fun hformat hcounts hissues hnumbers hnow => ⟨report, ?_, ?_⟩⟩
    · rw [hformat]
      exact parse?_jsonText_of_isReport hreport hcounts hissues hnumbers hnow
    · rw [hending]
      cases report.hasFailures (.ofConfig config) <;> simp
  · have hresult : result = refuse setting e.message := by
      simp only [result, runScan, herror]
    refine ⟨fun _ => ?_, fun hnot => absurd hrefused hnot⟩
    rw [hresult]
    exact ⟨rfl, rfl⟩

/-! ### A workspace whose report has failures -/

/-- A workspace with one application and a configuration that enables no analyzer, so that nothing is known
about the application that could make a score, and beside it one whose applications may not be listed. -/
def idleSetting : Setting where
  tree := {
    root := .directory [("closed", .directory [("apps", .sealed .denied)]), ("ws", .directory [
      ("apps", .directory [("web", .directory [("package.json", .file (.text "\x7b\x7d"))])]),
      ("healthscan.yaml", .file (.text "enabled_analyzers: []\n"))])]
    current := "/" }
  run := ⟨fun _ _ => .error (.notStarted .missing), fun _ => 5⟩
  now := ⟨20000, 3661, 500000000⟩
  colored := false

/-- The application of the workspace. -/
def idleProject : Workspace.Project :=
  ⟨"web", .application, "/ws/apps/web"⟩

/-- The arguments for a report as JSON on a workspace, in a file. -/
def jsonArguments (root : String) : ScanArguments where
  root := root
  project := none
  format := .json
  output := some "/report.json"
  config := none
  jobs := none
  yes := true
  previous := none

theorem exists_isConfig_idle : ∃ config, IsConfig idleSetting.tree (jsonArguments "/ws") config ∧
    config.validate = .ok () ∧ config.enabledAnalyzers = [] ∧ config.workspace = {} := by
  have hfile : idleSetting.tree.isFile "/ws/healthscan.yaml" = true := by
    simp only [Files.Tree.isFile, Files.Tree.resolve, Files.Tree.follow, Files.Path.steps_eq]
    decide +kernel
  have hpath : configPath? idleSetting.tree (jsonArguments "/ws") = some "/ws/healthscan.yaml" := by
    have hnames : Config.fileNames.map (Files.Path.join "/ws") =
        ["/ws/healthscan.yaml", "/ws/.healthscan.yaml", "/ws/healthscan.yml"] := by decide +kernel
    have hconfig : (jsonArguments "/ws").config = none := rfl
    have hroot : (jsonArguments "/ws").root = "/ws" := rfl
    rw [configPath?, hconfig, hroot, Option.none_or, Config.find?, hnames, List.find?_cons_of_pos hfile]
  have htext : idleSetting.tree.readText "/ws/healthscan.yaml" = .ok "enabled_analyzers: []\n" := by
    simp only [Files.Tree.readText, Files.Tree.resolve, Files.Tree.follow, Files.Path.steps_eq]
    decide +kernel
  have hparse : (Config.parse? "enabled_analyzers: []\n").map (fun config =>
      (config.validate.isOk, config.enabledAnalyzers, config.workspace)) = some (true, [], {}) := by
    decide +kernel
  obtain ⟨config, hconfig, heq⟩ := Option.map_eq_some_iff.mp hparse
  simp only [Prod.mk.injEq] at heq
  obtain ⟨hok, henabled, hlayout⟩ := heq
  exact ⟨_, .ofFile hpath htext hconfig, eq_ok_of_isOk hok, henabled, hlayout⟩

theorem projectsFor_idle : projectsFor idleSetting.tree (jsonArguments "/ws") {} = .ok [idleProject] := by
  simp only [projectsFor, Workspace.discover, Workspace.groupedProjects, Workspace.groupDirectories,
    Workspace.childDirectories, Files.Tree.entries, Files.Tree.isDirectory, Files.Tree.resolve, Files.Tree.follow,
    Files.Path.steps_eq]
  decide +kernel

theorem scanProject_idle {config : Config Float} (exclusion : Glob.Exclusion) (h : config.enabledAnalyzers = []) :
    (⟨idleSetting.tree, idleSetting.run, .builtIn, config, exclusion⟩ : Workspace.Scanner).scanProject idleProject =
      .ok ⟨idleProject, []⟩ := by
  have hroot : idleSetting.tree.canonical "/ws/apps/web" = .ok "/ws/apps/web" := by
    simp only [Files.Tree.canonical, Files.Tree.resolve, Files.Tree.follow, Files.Path.steps_eq]
    decide +kernel
  have hdirectory : idleSetting.tree.isDirectory "/ws/apps/web" = true := by
    simp only [Files.Tree.isDirectory, Files.Tree.resolve, Files.Tree.follow, Files.Path.steps_eq]
    decide +kernel
  have hmanifest : Workspace.manifest? idleSetting.tree "/ws/apps/web" =
      some (.packageJson, "/ws/apps/web/package.json") := by
    simp only [Workspace.manifest?, Files.Tree.isFile, Files.Tree.resolve, Files.Tree.follow, Files.Path.steps_eq]
    decide +kernel
  obtain ⟨metadata, hresolve⟩ := Workspace.exists_resolve_eq_ok hroot hdirectory hmanifest
  rw [Workspace.Scanner.scanProject, Workspace.Scanner.subject, show idleProject.root = "/ws/apps/web" from rfl,
    hresolve, Workspace.Scanner.analyzers, h]
  rfl

/-- A scan of one project that can be resolved comes to what is found out about it. -/
theorem projects_outcome_scan_singleton {scanner : Workspace.Scanner} {p : Workspace.Project}
    {x : Workspace.ProjectScan} (h : scanner.scanProject p = .ok x) :
    (scanner.scan [p] false).outcome.projects = [x] := by
  have hworkers : ¬scanner.config.workerCount 1 ≤ 0 := Nat.not_le.mpr (Config.workerCount_pos Nat.one_pos _)
  have hturns : (scanner.scan [p] false).turns = [.done x] := by
    have hturn : scanner.turn p = .done x := by rw [Workspace.Scanner.turn, h]
    rw [Workspace.Scanner.scan, Workspace.eventsInOrder]
    cases scanner.interrupts p <;>
      simp [Workspace.eventsInOrder, Workspace.Progress.run, Workspace.Progress.step?, Workspace.Progress.initial,
        hworkers, hturn]
  simp [Workspace.Progress.outcome, hturns, Workspace.Turn.entry, Entries.merge, Entries.set, Entries.sort]

/-- The report on a project about which nothing is known. -/
def idleReport : Health.ProjectReport Float :=
  ⟨"web", .application, Health.overallScore [], [], [], []⟩

theorem projects_of_isReport_idle {config : Config Float} {outcome : Workspace.Outcome}
    {report : Health.WorkspaceReport Float} (hconfig : config.enabledAnalyzers = [] ∧ config.workspace = {})
    (h : IsReport idleSetting (jsonArguments "/ws") config outcome report) :
    outcome.projects = [⟨idleProject, []⟩] ∧ report.projects = [idleReport] ∧
      report.score = Health.meanScore [idleReport] ∧ report.criticalIssues = [] := by
  obtain ⟨previous, projects, exclusion, -, hprojects, -, rfl, rfl⟩ := h
  rw [hconfig.2, projectsFor_idle, Except.ok.injEq] at hprojects
  subst hprojects
  have hoffered := projects_outcome_scan_singleton (scanProject_idle exclusion hconfig.1)
  have hreport : Health.ProjectReport.ofScan (.ofConfig config) ⟨idleProject, []⟩ = idleReport := by
    simp [Health.ProjectReport.ofScan, Health.byPriority, Health.unavailable, Entries.merge, idleProject, idleReport]
  rw [Health.WorkspaceReport.ofOutcome, hoffered, List.map_singleton, hreport]
  refine ⟨rfl, rfl, rfl, ?_⟩
  simp [Health.criticalCounts, Entries.sort, idleReport]

theorem placeToWrite_idle : idleSetting.tree.placeToWrite "/report.json" = .ok ["report.json"] := by
  simp only [Files.Tree.placeToWrite, Files.Tree.placeOfNew, Files.Tree.resolve, Files.Tree.follow,
    Files.Path.steps_eq]
  decide +kernel

theorem isRefused_none : IsRefused idleSetting.tree (jsonArguments "/none") := by
  have hroot : idleSetting.tree.isDirectory "/none" = false := by
    simp only [Files.Tree.isDirectory, Files.Tree.resolve, Files.Tree.follow, Files.Path.steps_eq]
    decide +kernel
  exact .rootNotDirectory hroot

theorem isRefused_closed : IsRefused idleSetting.tree (jsonArguments "/closed") := by
  have hpath : configPath? idleSetting.tree (jsonArguments "/closed") = none := by
    have hnames : ∀ path ∈ Config.fileNames.map (Files.Path.join "/closed"), idleSetting.tree.isFile path = false := by
      simp only [Files.Tree.isFile, Files.Tree.resolve, Files.Tree.follow, Files.Path.steps_eq]
      decide +kernel
    exact List.find?_eq_none.mpr fun path hpath => ne_true_of_eq_false (hnames path hpath)
  have hgroup : ("apps", Workspace.ProjectKind.application) ∈ Workspace.groups {} := by decide
  have hplace : idleSetting.tree.placeOf "/closed/apps" (Files.Path.steps "/closed/apps") = .ok ["closed", "apps"] := by
    simp only [Files.Tree.placeOf, Files.Tree.startOf, Files.Path.steps_eq]
    decide +kernel
  have hresolve : idleSetting.tree.resolve "/closed/apps" = .ok (["closed", "apps"], .sealed .denied) :=
    Files.Tree.resolve_eq_ok_iff.mpr ⟨by decide, hplace, rfl⟩
  have happs : Workspace.groupPath "/closed" "apps" = "/closed/apps" := by decide +kernel
  exact .of_sealed (.default hpath) hgroup (happs ▸ hresolve)

/-- The scan of the workspace ends with the code 1, and the report that is in the file has failures. A scan of a
directory that is not there, or of a workspace with a group that may not be listed, ends with the code 2. -/
theorem runScan_idle :
    let result := runScan idleSetting (jsonArguments "/ws")
    let failed := runScan idleSetting (jsonArguments "/none")
    let closed := runScan idleSetting (jsonArguments "/closed")
    (¬IsRefused idleSetting.tree (jsonArguments "/ws") ∧ result.ending = .ok 1 ∧
      ∃ config text loaded, configFor idleSetting.tree (jsonArguments "/ws") = .ok config ∧
        result.tree.readText "/report.json" = .ok text ∧ Health.WorkspaceReport.parse? text = some loaded ∧
        loaded.hasFailures (.ofConfig config) = true) ∧
      (IsRefused idleSetting.tree (jsonArguments "/none") ∧ failed.ending = .ok 2 ∧ failed.tree = idleSetting.tree) ∧
      IsRefused idleSetting.tree (jsonArguments "/closed") ∧ closed.ending = .ok 2 ∧
      closed.tree = idleSetting.tree := by
  intro result failed closed
  obtain ⟨config, hconfig, hvalid, henabled, hlayout⟩ := exists_isConfig_idle
  have hprojects : projectsFor idleSetting.tree (jsonArguments "/ws") config.workspace = .ok [idleProject] := by
    rw [hlayout, projectsFor_idle]
  have hprevious : previousScore idleSetting.tree (jsonArguments "/ws").previous = .ok none := rfl
  have hnot := not_isRefused hconfig hvalid hprevious hprojects
  refine ⟨⟨hnot, ?_⟩, ⟨isRefused_none, (runScan_spec idleSetting (jsonArguments "/none")).1 isRefused_none⟩,
    isRefused_closed, (runScan_spec idleSetting (jsonArguments "/closed")).1 isRefused_closed⟩
  obtain ⟨config', outcome, report, hfor, hreport, hrun⟩ := (runScan_spec idleSetting (jsonArguments "/ws")).2 hnot
  -- the configuration of the scan is the one in the file
  obtain rfl : config = config' := by
    rcases configFor_cases idleSetting.tree (jsonArguments "/ws") with ⟨other, hother, hisConfig, -⟩ | ⟨-, hrefused⟩
    · exact (hconfig.unique hisConfig).trans (Except.ok.inj (hother.symm.trans hfor))
    · exact absurd hrefused hnot
  obtain ⟨hscanned, hreports, hscore, hcritical⟩ := projects_of_isReport_idle ⟨henabled, hlayout⟩ hreport
  have hwritable : ∀ path, (Action.scan (jsonArguments "/ws")).target? = some path →
      ∃ place, idleSetting.tree.placeToWrite path = .ok place := by
    intro path hpath
    obtain rfl : "/report.json" = path := Option.some.inj hpath
    exact ⟨_, placeToWrite_idle⟩
  have hcounts : ∀ n ∈ outcome.counts, n < Word.size := by
    rw [Workspace.Outcome.counts, hscanned]
    decide
  have hissues : ∀ c ∈ report.criticalIssues, c.2 < Word.size := by
    rw [hcritical]
    exact List.forall_mem_nil _
  have hnumbers : ∀ x ∈ report.floats, x.isFinite = true → Json.ReadsBack x := by
    rw [Health.WorkspaceReport.floats, hreports, hscore]
    decide +kernel
  have hnow : Time.Timestamp.parse? idleSetting.now.text = some idleSetting.now := by decide +kernel
  have hfailing : report.hasFailures (.ofConfig config) = true := by
    have hstatus : idleReport.status = .failing := by decide +kernel
    rw [Health.WorkspaceReport.hasFailures, hreports]
    simp [hstatus]
  obtain ⟨⟨place, hwritten, -⟩, hending, hloads⟩ := hrun hwritable
  obtain ⟨loaded, hloaded, hiff⟩ := hloads rfl hcounts hissues hnumbers hnow
  rw [hfailing] at hending
  refine ⟨hending, config, _, loaded, hfor, ?_, hloaded, hiff.mpr hending⟩
  rw [Files.Tree.readText, hwritten]
  rfl

end Checkup.Command
