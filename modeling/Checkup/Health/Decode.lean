import Checkup.Health.Workspace
import Checkup.Json.Decode
import Checkup.Json.Reader

/-!
# Reports read back

A report is read from the JSON that is written for one. Fields that later versions added may be absent, and
members that are no fields are passed over.
-/

namespace Checkup.Health

open Json

/-- Reads an issue. -/
def Issue.ofJson? (value : Json) : Option Issue := do
  let fields ← fields? ["kind", "severity", "message", "file"] value
  return {
    kind := ← required string? (fieldAt fields 0)
    severity := ← required (constant? ([.critical, .warning, .info].map fun s => (s.name, s))) (fieldAt fields 1)
    message := ← required string? (fieldAt fields 2)
    file := ← optional string? (fieldAt fields 3) }

/-- Reads a summary. -/
def Summary.ofJson? (value : Json) : Option (Summary Float) := do
  let fields ← fields? ["score", "issues", "metrics"] value
  return {
    score := ← required float? (fieldAt fields 0)
    issues := ← required (list? Issue.ofJson?) (fieldAt fields 1)
    metrics := ← required (sortedEntries? float?) (fieldAt fields 2) }

/-- Reads a recommendation. -/
def Recommendation.ofJson? (value : Json) : Option Recommendation := do
  let fields ← fields? ["priority", "analyzer", "message", "projects"] value
  return {
    priority := ← required (constant? ([.high, .medium, .low].map fun p => (p.name, p))) (fieldAt fields 0)
    analyzer := ← required string? (fieldAt fields 1)
    message := ← required string? (fieldAt fields 2)
    projects := ← withDefault (list? string?) [] (fieldAt fields 3) }

/-- Reads a failed analysis. -/
def Unavailable.ofJson? (value : Json) : Option Unavailable := do
  let fields ← fields? ["analyzer", "errors"] value
  return {
    analyzer := ← required string? (fieldAt fields 0)
    errors := ← required (list? string?) (fieldAt fields 1) }

/-- Reads a project that could not be scanned. -/
def failedProjectOfJson? (value : Json) : Option Workspace.FailedProject := do
  let fields ← fields? ["name", "error"] value
  return {
    name := ← required string? (fieldAt fields 0)
    error := ← required string? (fieldAt fields 1) }

/-- Reads a kind of project. -/
def projectKindOfJson? : Json → Option Workspace.ProjectKind :=
  constant? ([.application, .library].map fun k => (k.name, k))

/-- Reads summaries by analyzer; a repeated name keeps its first place and its last summary. -/
def summariesOfJson? (value : Json) : Option (List (String × Summary Float)) :=
  (entries? Summary.ofJson? value).map Entries.merge

/-- Reads the report on a project. -/
def ProjectReport.ofJson? (value : Json) : Option (ProjectReport Float) := do
  let fields ← fields?
    ["projectName", "kind", "overallScore", "summaries", "recommendations", "unavailable"] value
  return {
    projectName := ← required string? (fieldAt fields 0)
    kind := ← required projectKindOfJson? (fieldAt fields 1)
    overallScore := ← required float? (fieldAt fields 2)
    summaries := ← required summariesOfJson? (fieldAt fields 3)
    recommendations := ← required (list? Recommendation.ofJson?) (fieldAt fields 4)
    unavailable := ← withDefault (list? Unavailable.ofJson?) [] (fieldAt fields 5) }

/-- Reads the score of a workspace and its trend. -/
def aggregateOfJson? (value : Json) : Option (Float × Trend) := do
  let fields ← fields? ["score", "trend"] value
  let score ← required float? (fieldAt fields 0)
  let trends := [Trend.improving, .stable, .declining].map fun t => (t.name, t)
  let trend ← required (constant? trends) (fieldAt fields 1)
  return (score, trend)

/-- Reads the report on a workspace. -/
def WorkspaceReport.ofJson? (value : Json) : Option (WorkspaceReport Float) := do
  let fields ← fields?
    ["timestamp", "projectReports", "aggregateHealth", "criticalIssues", "recommendations", "partial",
      "failedProjects"] value
  let timestamp ← Time.Timestamp.parse? (← required string? (fieldAt fields 0))
  let (score, trend) ← required aggregateOfJson? (fieldAt fields 2)
  return {
    timestamp := timestamp
    projects := ← required (list? ProjectReport.ofJson?) (fieldAt fields 1)
    score := score
    trend := trend
    criticalIssues := ← required (sortedEntries? word?) (fieldAt fields 3)
    recommendations := ← required (list? Recommendation.ofJson?) (fieldAt fields 4)
    isPartial := ← withDefault bool? false (fieldAt fields 5)
    failed := ← withDefault (list? failedProjectOfJson?) [] (fieldAt fields 6) }

/-- Reads the report on a workspace from its text. -/
def WorkspaceReport.parse? (text : String) : Option (WorkspaceReport Float) := do
  WorkspaceReport.ofJson? (← Json.parse? text.toList)

end Checkup.Health
