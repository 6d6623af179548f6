import Checkup.Health.Project
import Checkup.Time.Timestamp

/-!
# The report on a workspace

The reports on all projects that were scanned, with their mean score, the number of critical issues by
analyzer, and a recommendation for every analyzer by which more than a third of the projects do badly.
-/

namespace Checkup

namespace Health

variable {α : Type} [Measure α]

/-- The report on a workspace. -/
structure WorkspaceReport (α : Type) where
  timestamp : Time.Timestamp
  projects : List (ProjectReport α)
  score : α
  trend : Trend
  /-- The numbers of critical issues by analyzer, ascending. -/
  criticalIssues : List (String × Nat)
  recommendations : List Recommendation
  /-- Whether projects were left out because the scan was cancelled. -/
  isPartial : Bool
  failed : List Workspace.FailedProject
  deriving Repr

/-- The mean of the overall scores; 0 without projects. -/
def meanScore (reports : List (ProjectReport α)) : α :=
  if reports.isEmpty then Measure.ofNat 0
  else Measure.sum (reports.map (·.overallScore)) / Measure.ofNat reports.length

/-- The number of critical issues that the summaries by one analyzer hold. -/
def criticalCount (summaries : List (String × Summary α)) (analyzer : String) : Nat :=
  ((summaries.filter (·.1 == analyzer)).map (·.2.criticalIssues.length)).foldr (· + ·) 0

/-- The numbers of critical issues by analyzer, for the analyzers that have a summary in some report. -/
def criticalCounts (reports : List (ProjectReport α)) : List (String × Nat) :=
  let summaries := reports.flatMap (·.summaries)
  let names := (summaries.map (·.1)).eraseDups
  Entries.sort (names.map fun name => (name, criticalCount summaries name))

/-- The projects whose summary under a profile's name scores below its warning threshold. -/
def affectedProjects (reports : List (ProjectReport α)) (profile : Profile α) : List String :=
  (reports.filter fun r => (r.summaries.lookup profile.name).any fun summary =>
    Measure.lt summary.score profile.thresholds.warning).map (·.projectName)

/-- The recommendation for a profile by which more than a third of the projects do badly. -/
def widespread? (reports : List (ProjectReport α)) (profile : Profile α) : Option Recommendation :=
  let affected := affectedProjects reports profile
  let total := reports.length
  if total < 3 * affected.length then
    let message :=
      s!"widespread {profile.name} issue: {affected.length} of {total} projects are below the warning threshold"
    some ⟨.high, profile.name, message, affected⟩
  else none

/-- The report on the outcome of a scan at some time, by some profiles. `previous` is the score of an earlier
report. -/
def WorkspaceReport.ofOutcome (profiles : Profiles α) (previous : Option α) (timestamp : Time.Timestamp)
    (outcome : Workspace.Outcome) : WorkspaceReport α :=
  let reports := outcome.projects.map (ProjectReport.ofScan profiles)
  { timestamp := timestamp
    projects := reports
    score := meanScore reports
    trend := Trend.between previous (meanScore reports)
    criticalIssues := criticalCounts reports
    recommendations := profiles.filterMap (widespread? reports)
    isPartial := outcome.isPartial
    failed := outcome.failed }

/-- Whether a summary is failing by the profile of its name, if there is one. -/
def isFailing (profiles : Profiles α) (analyzer : String) (summary : Summary α) : Bool :=
  (profiles.get? analyzer).any fun profile => profile.thresholds.status summary.score = .failing

/-- Whether some project is failing, as a whole or by some profile. -/
def WorkspaceReport.hasFailures (profiles : Profiles α) (report : WorkspaceReport α) : Bool :=
  report.projects.any fun project =>
    project.status = .failing || project.summaries.any fun (name, summary) => isFailing profiles name summary

end Health

end Checkup
