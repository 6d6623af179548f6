import Checkup.Analyzer.BuiltIn
import Checkup.Proofs.Duplication.Detection
import Checkup.Proofs.Files.Path
import Mathlib.Algebra.Order.Ring.Nat

/-!
# Overflow in the analyzers

Two analyzers calculate with numbers of the configuration. The search for duplicates adds the bounds of windows
to the number of a line, and takes the sum for the last line of a window only after it has been added up; the
measuring of assets multiplies a budget by 1024. The checks of a configuration compare the bounds with each
other and look at the budget not at all. So a valid configuration can make either analyzer fail: the search breaks
down in a task of its own, and the analyzer that waits for the task gives the reason; the measuring breaks down
itself. `overflows_iff_of_validate` says when:

* **Windows** — the listing for a file looks for windows at the lines up to `Settings.lastStart`, and overflows
  if the largest bound and the last of them make a sum that fits no word (`Settings.Overruns`). A file of one
  line overruns nothing; one of two lines overruns the largest word if windows may be that short.
* **Assets** — they overflow if their sizes add up to no word or the budget in bytes is none, provided that
  there are any.
-/

namespace Checkup

theorem bind_eq_ok_iff {ε α β : Type} {x : Except ε α} {f : α → Except ε β} {b : β} :
    (x >>= f) = .ok b ↔ ∃ a, x = .ok a ∧ f a = .ok b := by
  cases x <;> simp [bind, Except.bind]

/-- A computation in two parts has a result if both have one. -/
theorem exists_bind_eq_ok_iff {ε α β : Type} {x : Except ε α} {f : α → Except ε β} :
    (∃ b, (x >>= f) = .ok b) ↔ ∃ a, x = .ok a ∧ ∃ b, f a = .ok b := by
  cases x <;> simp [bind, Except.bind]

theorem Word.add_eq_ok_iff {a b c : Nat} : Word.add a b = .ok c ↔ c = a + b ∧ a + b < Word.size := by
  rw [Word.add]
  split <;> simp_all [eq_comm]

theorem Word.mul_eq_ok_iff {a b c : Nat} : Word.mul a b = .ok c ↔ c = a * b ∧ a * b < Word.size := by
  rw [Word.mul]
  split <;> simp_all [eq_comm]

/-! ### Windows -/

namespace Duplication

/-- The index of the last line at which the listing looks for windows, among `total` lines: the last one, or
the one after the last that starts a window of the least length. -/
def Settings.lastStart (settings : Settings) (total : Nat) : Nat :=
  min (total - 1) (total + 1 - settings.minLines)

/-- The largest bound of windows and the last line at which windows are looked for are too much for a word. -/
def Settings.Overruns (settings : Settings) (file : SourceFile) : Prop :=
  0 < file.lineCount ∧ Word.size ≤ settings.lastStart file.lineCount + settings.maxWindow

section Windows

variable {settings : Settings} {file : SourceFile}

theorem isReached_iff (hmin : 1 ≤ settings.minLines) (hmax : settings.minLines ≤ settings.maxWindow)
    {total first : Nat} (hfirst : first < total) :
    IsReached settings total first ↔ first ≤ settings.lastStart total := by
  rw [IsReached, Settings.lastStart]
  omega

/-- No sum overflows at any line if none does at the last. -/
theorem fitsWords_iff (hmin : 1 ≤ settings.minLines) (hmax : settings.minLines ≤ settings.maxWindow) :
    FitsWords settings file ↔ ¬settings.Overruns file := by
  rw [FitsWords, Settings.Overruns]
  constructor
  · rintro hfits ⟨hpos, hover⟩
    -- the last of these lines is one of them, so its own sum would have to fit
    have hlast : settings.lastStart file.lineCount < file.lineCount := by
      rw [Settings.lastStart]
      omega
    have := (hfits _ hlast ((isReached_iff hmin hmax hlast).mpr (Nat.le_refl _))).1
    omega
  · intro hfits first hfirst hreached
    have := (isReached_iff hmin hmax hfirst).mp hreached
    omega

end Windows

end Duplication

/-! ### Assets -/

namespace Assets

theorem foldlM_add_eq_ok_iff {assets : List Asset} {total n : Nat} (htotal : total < Word.size) :
    assets.foldlM (fun total asset => Word.add total asset.bytes) total = .ok n ↔
      n = total + (assets.map (·.bytes)).sum ∧ n < Word.size := by
  induction assets generalizing total with
  | nil =>
    rw [List.foldlM_nil, List.map_nil, List.sum_nil]
    constructor
    · intro h
      obtain rfl : total = n := Except.ok.inj h
      exact ⟨rfl, htotal⟩
    · rintro ⟨rfl, -⟩
      rfl
  | cons asset rest ih =>
    rw [List.foldlM_cons, bind_eq_ok_iff, List.map_cons, List.sum_cons, ← Nat.add_assoc]
    constructor
    · rintro ⟨c, hadd, hrest⟩
      obtain ⟨rfl, hlt⟩ := Word.add_eq_ok_iff.mp hadd
      exact (ih hlt).mp hrest
    · rintro ⟨hn, hlt⟩
      have hadd : total + asset.bytes < Word.size := by omega
      exact ⟨_, Word.add_eq_ok hadd, (ih hadd).mpr ⟨hn, hlt⟩⟩

/-- What is found out about assets, unless a number fits no word. -/
theorem ofAssets_eq_ok_iff {budgetKb : Nat} {assets : List Asset} {found : Findings} :
    Findings.ofAssets budgetKb assets = .ok found ↔
      found = ⟨assets, (assets.map (·.bytes)).sum, budgetKb * 1024⟩ ∧
        (assets.map (·.bytes)).sum < Word.size ∧ budgetKb * 1024 < Word.size := by
  simp only [Findings.ofAssets, bind_eq_ok_iff, totalSize, Word.mul_eq_ok_iff,
    foldlM_add_eq_ok_iff (by decide : 0 < Word.size), Nat.zero_add]
  constructor
  · rintro ⟨_, ⟨rfl, htotal⟩, _, ⟨rfl, hbudget⟩, hfound⟩
    exact ⟨(Except.ok.inj hfound).symm, htotal, hbudget⟩
  · rintro ⟨rfl, htotal, hbudget⟩
    exact ⟨_, ⟨rfl, htotal⟩, _, ⟨rfl, hbudget⟩, rfl⟩

theorem exists_ofAssets_eq_ok_iff {budgetKb : Nat} {assets : List Asset} :
    (∃ found, Findings.ofAssets budgetKb assets = .ok found) ↔
      (assets.map (·.bytes)).sum < Word.size ∧ budgetKb * 1024 < Word.size := by
  simp only [ofAssets_eq_ok_iff, exists_eq_left]

end Assets

/-! ### Valid configurations -/

theorem bounds_of_validate {α : Type} [Measure α] {config : Config α} (h : config.validate = .ok ()) :
    1 ≤ config.duplication.minLines ∧ config.duplication.minLines ≤ config.duplication.maxWindow := by
  -- the check of the windows comes after three others
  obtain ⟨-, -, hrest⟩ := exists_bind_eq_ok_iff.mp ⟨_, h⟩
  obtain ⟨-, -, hrest⟩ := exists_bind_eq_ok_iff.mp hrest
  obtain ⟨-, -, _, hwindows⟩ := exists_bind_eq_ok_iff.mp hrest
  rw [checkWindows] at hwindows
  split at hwindows
  · contradiction
  · split at hwindows
    · contradiction
    · omega

namespace Analyzer

/-- An analyzer fails because a number does not fit a word. What has broken down by it is told by `broken`. -/
def Overflows (analyzer : Analyzer) (broken : String → Failure) (subject : Subject) : Prop :=
  ∃ overflow : Overflow, analyzer.analyze subject = .error (broken overflow.message)

/-- The failure of the task that looks for duplicates. -/
def inTask (subject : Subject) : String → Failure :=
  .ofTask (subject.run.task subject.metadata.root)

/-- A computation that may overflow fails so exactly if it has no result. -/
theorem exists_map_ofOverflow_eq_error_iff {α β : Type} {broken : String → Failure} {outcome : Except Overflow α}
    {f : α → β} :
    (∃ overflow : Overflow, (Failure.ofOverflow broken outcome).map f = .error (broken overflow.message)) ↔
      ¬∃ a, outcome = .ok a := by
  cases outcome with
  | ok a => simp [Failure.ofOverflow, Except.map, Except.mapError]
  | error overflow => exact iff_of_true ⟨overflow, rfl⟩ (by simp)

theorem overflows_duplication_iff {subject : Subject} :
    Analyzer.duplication.Overflows (inTask subject) subject ↔
      ∃ file ∈ subject.sources.filterMap Duplication.SourceFile.ofSource?,
        ¬Duplication.FitsWords subject.config.duplication file := by
  have hfound : (∃ found,
      Duplication.Findings.ofSources subject.config.duplication subject.sources = .ok found) ↔
      ∀ file ∈ subject.sources.filterMap Duplication.SourceFile.ofSource?,
        Duplication.FitsWords subject.config.duplication file := by
    rw [← Duplication.exists_findDuplicates_eq_ok_iff, Duplication.Findings.ofSources,
      Duplication.Findings.ofFiles, exists_bind_eq_ok_iff]
    exact exists_congr fun ds => and_iff_left ⟨_, rfl⟩
  rw [Overflows]
  refine exists_map_ofOverflow_eq_error_iff.trans ?_
  simp only [hfound, not_forall, exists_prop]

/-- The measuring of assets refuses to measure none, and has no other way to fail than an overflow. -/
theorem analyze_bundleSize_cases (subject : Subject) :
    let assets := Assets.collect subject.tree subject.metadata.root subject.config.bundle.outputDirs
    (assets = [] ∧ ∃ text, Analyzer.bundleSize.analyze subject = .error (.refusal text)) ∨
      (assets ≠ [] ∧ Analyzer.bundleSize.analyze subject =
        (Failure.ofOverflow .breakdown (Assets.Findings.ofAssets subject.config.bundle.budgetKb assets)).map
          .bundleSize) := by
  intro assets
  by_cases hempty : assets = []
  · exact .inl ⟨hempty, _, if_pos (List.isEmpty_iff.mpr hempty)⟩
  · exact .inr ⟨hempty, if_neg (List.isEmpty_iff.not.mpr hempty)⟩

theorem overflows_bundleSize_iff {subject : Subject} :
    let assets := Assets.collect subject.tree subject.metadata.root subject.config.bundle.outputDirs
    Analyzer.bundleSize.Overflows .breakdown subject ↔ assets ≠ [] ∧
      (Word.size ≤ (assets.map (·.bytes)).sum ∨ Word.size ≤ subject.config.bundle.budgetKb * 1024) := by
  intro assets
  rw [Overflows]
  rcases analyze_bundleSize_cases subject with ⟨hempty, text, hanalyze⟩ | ⟨hsome, hanalyze⟩
  · rw [hanalyze]
    exact iff_of_false (by simp) fun h => h.1 hempty
  · rw [hanalyze, exists_map_ofOverflow_eq_error_iff, Assets.exists_ofAssets_eq_ok_iff, and_iff_right hsome,
      not_and_or, not_lt, not_lt]

/-- The findings of the measuring of assets. -/
theorem analyze_bundleSize_eq_ok_iff {subject : Subject} {found : Assets.Findings} :
    let assets := Assets.collect subject.tree subject.metadata.root subject.config.bundle.outputDirs
    Analyzer.bundleSize.analyze subject = .ok (.bundleSize found) ↔ assets ≠ [] ∧
      found = ⟨assets, (assets.map (·.bytes)).sum, subject.config.bundle.budgetKb * 1024⟩ ∧
      (assets.map (·.bytes)).sum < Word.size ∧ subject.config.bundle.budgetKb * 1024 < Word.size := by
  intro assets
  rw [← Assets.ofAssets_eq_ok_iff]
  rcases analyze_bundleSize_cases subject with ⟨hempty, text, hanalyze⟩ | ⟨hsome, hanalyze⟩
  · rw [hanalyze]
    exact iff_of_false nofun fun h => h.1 hempty
  · rw [hanalyze, and_iff_right hsome]
    cases Assets.Findings.ofAssets subject.config.bundle.budgetKb assets <;>
      simp [Failure.ofOverflow, Except.map, Except.mapError]

/-- **When a valid configuration overflows.** The listing of windows overflows for the files that the settings
overrun. So does the search for duplicates if some source file that can be read is among them, and the measuring
of assets if there are any and their sizes add up to no word or the budget in bytes is none. -/
theorem overflows_iff_of_validate {subject : Subject} (h : subject.config.validate = .ok ()) :
    let settings := subject.config.duplication
    let files := subject.sources.filterMap Duplication.SourceFile.ofSource?
    let assets := Assets.collect subject.tree subject.metadata.root subject.config.bundle.outputDirs
    (∀ file, (∃ overflow, Duplication.windows settings file = .error overflow) ↔ settings.Overruns file) ∧
      (Analyzer.duplication.Overflows (inTask subject) subject ↔ ∃ file ∈ files, settings.Overruns file) ∧
      (Analyzer.bundleSize.Overflows .breakdown subject ↔ assets ≠ [] ∧
        (Word.size ≤ (assets.map (·.bytes)).sum ∨ Word.size ≤ subject.config.bundle.budgetKb * 1024)) := by
  intro settings files assets
  obtain ⟨hmin, hmax⟩ := bounds_of_validate h
  have hfits : ∀ file, ¬Duplication.FitsWords settings file ↔ settings.Overruns file := fun file => by
    rw [Duplication.fitsWords_iff hmin hmax, not_not]
  refine ⟨fun file => ?_, ?_, overflows_bundleSize_iff⟩
  · rw [← hfits, ← Duplication.exists_windows_eq_ok_iff]
    cases Duplication.windows settings file <;> simp
  · rw [overflows_duplication_iff]
    exact exists_congr fun file => and_congr_right fun _ => hfits file

/-- The directory of a project with two lines of source and one asset. -/
def smallProject : Files.Node :=
  .directory [("a.ts", .file (.text "one\ntwo\n")), ("dist", .directory [("a.js", .file (.text "1"))])]

/-- The project under some configuration. -/
def smallSubject (config : Config Float) : Subject where
  tree := ⟨.directory [("site", smallProject)], "/"⟩
  run := ⟨fun _ _ => .error (.notStarted .missing), fun _ => 5⟩
  config := config
  exclusion := ⟨[]⟩
  project := ⟨"site", .application, "/site"⟩
  metadata := ⟨"/site", "/site/package.json", .packageJson, none, none⟩

theorem sources_smallSubject (config : Config Float) :
    (smallSubject config).sources = [⟨["a.ts"], .text "one\ntwo\n"⟩] := by
  simp only [Subject.sources, smallSubject, Files.Tree.resolve, Files.Tree.follow, Files.Path.steps_eq]
  decide +kernel

theorem files_smallSubject (config : Config Float) :
    (smallSubject config).sources.filterMap Duplication.SourceFile.ofSource? = [⟨"a.ts", "one\ntwo\n"⟩] := by
  rw [sources_smallSubject]
  decide +kernel

/-- A configuration that allows windows of one line and more, and one directory of assets. -/
def boundsConfig (maxWindow budgetKb : Nat) : Config Float where
  excludePaths := []
  duplication := ⟨1, 0, maxWindow⟩
  bundle := ⟨["dist"], budgetKb⟩

theorem assets_smallSubject (maxWindow budgetKb : Nat) :
    let subject := smallSubject (boundsConfig maxWindow budgetKb)
    Assets.collect subject.tree subject.metadata.root subject.config.bundle.outputDirs =
      [⟨"dist/a.js", 1⟩] := by
  simp only [boundsConfig, Assets.collect, List.flatMap_singleton, Assets.below, Files.Path.relative,
    Files.Path.components, smallSubject, Files.Tree.resolve, Files.Tree.follow, Files.Path.steps_eq]
  decide +kernel

/-- The greatest bounds with which neither analyzer overflows on the project. -/
theorem not_overflows_boundsConfig :
    let subject := smallSubject (boundsConfig (Word.size - 2) (Word.size / 1024 - 1))
    subject.config.validate = .ok () ∧ ¬Analyzer.duplication.Overflows (inTask subject) subject ∧
      ¬Analyzer.bundleSize.Overflows .breakdown subject := by
  intro subject
  have hvalid : subject.config.validate = .ok () := rfl
  obtain ⟨-, hduplication, hbundleSize⟩ := overflows_iff_of_validate hvalid
  refine ⟨hvalid, fun h => ?_, fun h => ?_⟩
  · obtain ⟨file, hfile, hover⟩ := hduplication.mp h
    rw [files_smallSubject] at hfile
    obtain rfl : file = ⟨"a.ts", "one\ntwo\n"⟩ := List.mem_singleton.mp hfile
    exact absurd hover.2 (by decide +kernel)
  · have hover := (hbundleSize.mp h).2
    rw [assets_smallSubject _ _] at hover
    exact absurd hover (by decide +kernel)

/-- With bounds greater by one, both overflow, although every check of the configuration passes. The one is told that
its task has broken down, the other has broken down itself. -/
theorem overflows_boundsConfig :
    let subject := smallSubject (boundsConfig (Word.size - 1) (Word.size / 1024))
    subject.config.validate = .ok () ∧
      Duplication.windows subject.config.duplication ⟨"a.ts", "one\ntwo\n"⟩ = .error .add ∧
      Analyzer.duplication.analyze subject =
        .error (.refusal "task 5 panicked with message \"attempt to add with overflow\"") ∧
      Analyzer.duplication.Overflows (inTask subject) subject ∧ Analyzer.bundleSize.Overflows .breakdown subject := by
  intro subject
  have hwindows : Duplication.windows subject.config.duplication ⟨"a.ts", "one\ntwo\n"⟩ = .error .add := rfl
  have hfound : Duplication.Findings.ofSources subject.config.duplication subject.sources = .error .add := by
    rw [Duplication.Findings.ofSources, files_smallSubject]
    rfl
  have hanalyze : Analyzer.duplication.analyze subject = .error (inTask subject Overflow.add.message) := by
    have hanalyze : Analyzer.duplication.analyze subject = (Failure.ofOverflow (inTask subject)
      (Duplication.Findings.ofSources subject.config.duplication subject.sources)).map .duplication := rfl
    rw [hanalyze, hfound]
    rfl
  have hmessage : inTask subject Overflow.add.message =
      .refusal "task 5 panicked with message \"attempt to add with overflow\"" := by
    decide +kernel
  refine ⟨rfl, hwindows, hanalyze.trans (congrArg _ hmessage), ⟨.add, hanalyze⟩, overflows_bundleSize_iff.mpr ?_⟩
  rw [assets_smallSubject _ _]
  decide +kernel

end Analyzer

end Checkup
