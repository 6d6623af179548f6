import Checkup.Proofs.Command.Run
import Checkup.Proofs.Health.Aggregate

/-!
# Failing workspaces

Two places judge a workspace. The summary and the page show the band of its mean score; the code that a scan ends
with goes by whether its report has failures, that is by the scores of the projects and of their summaries. In
exact arithmetic the first verdict entails the second wherever a project was scanned: a mean below the lower
threshold has a score below it among its terms (`Health.hasFailures_iff_of_failing`). A workspace of which no project
was scanned is shown as failing, as its score is 0, and has no failures.
-/

namespace Checkup.Command

open Health

/-- If its report can be written, a scan ends with the code 1 exactly if the report has failures. -/
theorem ending_runScan_eq_one_iff {setting : Setting} {arguments : ScanArguments} {profiles : Profiles Float}
    {report : WorkspaceReport Float} (hreport : reportFor setting arguments = .ok (profiles, report))
    (hwritable : ∀ path, (Action.scan arguments).target? = some path →
      ∃ place, setting.tree.placeToWrite path = .ok place) :
    (runScan setting arguments).ending = .ok 1 ↔ report.hasFailures profiles = true := by
  have hresult : runScan setting arguments = writeReport setting arguments profiles report := by
    simp only [runScan, hreport]
  rw [hresult, (writeReport_spec profiles report hwritable).2]
  cases report.hasFailures profiles <;> simp

/-- **A workspace shown as failing** has failures exactly if one of its projects was scanned; and a scan whose report
has failures ends with the code 1, unless its report cannot be written. -/
theorem hasFailures_of_shown_failing (profiles : Profiles Rat) (previous : Option Rat) (timestamp : Time.Timestamp)
    (outcome : Workspace.Outcome)
    (hfailing : overallThresholds.status
      (WorkspaceReport.ofOutcome profiles previous timestamp outcome).score = .failing) :
    ((WorkspaceReport.ofOutcome profiles previous timestamp outcome).hasFailures profiles = true ↔
        outcome.projects ≠ []) ∧
      ∀ setting arguments profiles report, reportFor setting arguments = .ok (profiles, report) →
        (∀ path, (Action.scan arguments).target? = some path →
          ∃ place, setting.tree.placeToWrite path = .ok place) →
        ((runScan setting arguments).ending = .ok 1 ↔ report.hasFailures profiles = true) := by
  refine ⟨?_, fun setting arguments profiles report => ending_runScan_eq_one_iff⟩
  rw [hasFailures_iff_of_failing (isAverage_meanScore _) hfailing]
  exact not_congr List.map_eq_nil_iff

/-- Two projects. Of the first nothing was found out; in the second, one of five files is too complex. -/
def unevenOutcome : Workspace.Outcome where
  projects :=
    let files := [⟨"a.ts", 3, 20⟩, ⟨"b.ts", 25, 20⟩, ⟨"c.ts", 3, 20⟩, ⟨"d.ts", 3, 20⟩, ⟨"e.ts", 3, 20⟩]
    [⟨⟨"site", .application, "apps/site"⟩, [.failed "complexity" ["boom"]]⟩,
      ⟨⟨"ui", .library, "libs/ui"⟩, [.succeeded "complexity" (.complexity ⟨files, 20, []⟩)]⟩]
  failed := []
  isPartial := false

theorem exists_reportFor_idle :
    ∃ profiles report, reportFor idleSetting (jsonArguments "/ws") = .ok (profiles, report) := by
  obtain ⟨config, hconfig, hvalid, -, hlayout⟩ := exists_isConfig_idle
  have hprojects : projectsFor idleSetting.tree (jsonArguments "/ws") config.workspace = .ok [idleProject] := by
    rw [hlayout, projectsFor_idle]
  have hprevious : previousScore idleSetting.tree (jsonArguments "/ws").previous = .ok none := rfl
  rcases reportFor_cases idleSetting (jsonArguments "/ws") with ⟨-, _, _, report, -, -, hok⟩ | ⟨hrefused, -⟩
  · exact ⟨_, report, hok⟩
  · exact absurd hrefused (not_isRefused hconfig hvalid hprevious hprojects)

/-- The scores are 0 and 80, so the mean is failing, and the workspace fails by its first project. -/
theorem hasFailures_unevenOutcome :
    let profiles : Profiles Rat := .builtIn
    let report := WorkspaceReport.ofOutcome profiles none ⟨0, 0, 0⟩ unevenOutcome
    overallThresholds.status report.score = .failing ∧ report.hasFailures profiles = true ∧
      ∃ profiles report, reportFor idleSetting (jsonArguments "/ws") = .ok (profiles, report) ∧
        ((runScan idleSetting (jsonArguments "/ws")).ending = .ok 1 ↔ report.hasFailures profiles = true) := by
  intro profiles report
  have hfailing : overallThresholds.status report.score = .failing := by decide +kernel
  obtain ⟨hfailures, hending⟩ := hasFailures_of_shown_failing profiles none ⟨0, 0, 0⟩ unevenOutcome hfailing
  refine ⟨hfailing, hfailures.mpr (List.cons_ne_nil _ _), ?_⟩
  obtain ⟨profiles, report, hreport⟩ := exists_reportFor_idle
  refine ⟨profiles, report, hreport, hending _ _ profiles report hreport fun path hpath => ?_⟩
  obtain rfl : "/report.json" = path := Option.some.inj hpath
  exact ⟨_, placeToWrite_idle⟩

/-- Where the only project could not be resolved, the workspace is shown as failing and has no failures. -/
theorem not_hasFailures_of_no_projects :
    let profiles : Profiles Rat := .builtIn
    let outcome : Workspace.Outcome := ⟨[], [⟨"broken", "no project manifest found"⟩], false⟩
    let report := WorkspaceReport.ofOutcome profiles none ⟨0, 0, 0⟩ outcome
    (∀ p ∈ profiles, 0 < p.weight) ∧ overallThresholds.status report.score = .failing ∧
      report.hasFailures profiles = false := by
  intro profiles outcome report
  exact ⟨by decide +kernel, by decide +kernel, rfl⟩

end Checkup.Command
