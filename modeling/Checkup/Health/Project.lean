import Checkup.Entries
import Checkup.Health.Profile
import Checkup.Workspace.Basic

/-!
# The report on a project

The analyses of a project are summed up by their profiles. The overall score is the mean of the scores by
weight, over the analyses that have one; analyses that failed are listed, and analyses that no profile reads
are passed over. A score in a lower band, and every critical issue, makes a recommendation.
-/

namespace Checkup.Health

variable {α : Type} [Measure α]

/-- An analyzer that ran and failed. -/
structure Unavailable where
  analyzer : String
  errors : List String
  deriving DecidableEq, Repr

/-- The report on one project. -/
structure ProjectReport (α : Type) where
  projectName : String
  kind : Workspace.ProjectKind
  overallScore : α
  /-- The summaries by analyzer, in the order in which the analyzers ran. -/
  summaries : List (String × Summary α)
  recommendations : List Recommendation
  unavailable : List Unavailable
  deriving Repr

/-- The band of a project. -/
def ProjectReport.status (r : ProjectReport α) : Status :=
  overallThresholds.status r.overallScore

/-- An analysis with its profile and the summary that the profile makes of it. -/
structure Contribution (α : Type) where
  profile : Profile α
  summary : Summary α

/-- What an analysis contributes: nothing if it failed, has no profile, or is not read by it. -/
def contribution? (profiles : Profiles α) (analysis : Analysis) : Option (Contribution α) := do
  let findings ← analysis.result?
  let profile ← profiles.get? analysis.analyzer
  let summary ← profile.summarize? findings
  return ⟨profile, summary⟩

namespace Contribution

/-- The recommendation that a score in a lower band makes. -/
def bandRecommendations (c : Contribution α) : List Recommendation :=
  let name := c.profile.name
  let score := Measure.fixedText 0 c.summary.score
  match c.profile.thresholds.status c.summary.score with
  | .failing =>
    let threshold := Measure.fixedText 0 c.profile.thresholds.critical
    [⟨.high, name, s!"{name} score {score} is below the critical threshold of {threshold}", []⟩]
  | .caution =>
    let threshold := Measure.fixedText 0 c.profile.thresholds.warning
    [⟨.medium, name, s!"{name} score {score} is below the warning threshold of {threshold}", []⟩]
  | .healthy => []

/-- The recommendation that a critical issue makes. -/
def issueRecommendation (c : Contribution α) (issue : Issue) : Recommendation :=
  let message := match issue.file with
    | some file => s!"{file}: {issue.message}"
    | none => issue.message
  ⟨.high, c.profile.name, message, []⟩

/-- The recommendations that a contribution makes. -/
def recommendations (c : Contribution α) : List Recommendation :=
  c.bandRecommendations ++ c.summary.criticalIssues.map c.issueRecommendation

end Contribution

/-- The mean of the scores by weight; 0 if no weight is positive. -/
def overallScore (contributions : List (Contribution α)) : α :=
  let total := Measure.sum (contributions.map fun c => c.summary.score * c.profile.weight)
  let weight := Measure.sum (contributions.map (·.profile.weight))
  if Measure.lt (Measure.ofNat 0) weight then Measure.clamp (total / weight) else Measure.ofNat 0

/-- Recommendations with the most urgent first, in the given order within a priority. -/
def byPriority (recommendations : List Recommendation) : List Recommendation :=
  recommendations.mergeSort fun a b => a.priority.rank ≤ b.priority.rank

/-- The failed analyses. -/
def unavailable (analyses : List Analysis) : List Unavailable :=
  (analyses.filter (·.result?.isNone)).map fun analysis => ⟨analysis.analyzer, analysis.errors⟩

/-- The report on a project by some profiles. -/
def ProjectReport.ofScan (profiles : Profiles α) (scan : Workspace.ProjectScan) : ProjectReport α :=
  let contributions := scan.analyses.filterMap (contribution? profiles)
  { projectName := scan.project.name
    kind := scan.project.kind
    overallScore := Health.overallScore contributions
    summaries := Entries.merge (contributions.map fun c => (c.profile.name, c.summary))
    recommendations := byPriority (contributions.flatMap Contribution.recommendations)
    unavailable := Health.unavailable scan.analyses }

end Checkup.Health
