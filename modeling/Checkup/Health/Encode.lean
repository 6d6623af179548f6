import Checkup.Health.Workspace
import Checkup.Json.Printer

/-!
# Reports as JSON

A report is written with all of its fields in a fixed order. Only the file of an issue that has none and the
projects of a recommendation that names none are left out.
-/

namespace Checkup.Health

/-- An issue as JSON. -/
def Issue.toJson (issue : Issue) : Json :=
  .object <| [
    ("kind", .string issue.kind),
    ("severity", .string issue.severity.name),
    ("message", .string issue.message)]
    ++ (issue.file.map fun file => ("file", Json.string file)).toList

/-- A summary as JSON. -/
def Summary.toJson (s : Summary Float) : Json :=
  .object [
    ("score", .ofFloat s.score),
    ("issues", .array (s.issues.map Issue.toJson)),
    ("metrics", .object (s.metrics.map fun (name, value) => (name, Json.ofFloat value)))]

/-- A recommendation as JSON. -/
def Recommendation.toJson (r : Recommendation) : Json :=
  .object <| [
    ("priority", .string r.priority.name),
    ("analyzer", .string r.analyzer),
    ("message", .string r.message)]
    ++ (if r.projects.isEmpty then [] else [("projects", Json.ofStrings r.projects)])

/-- A failed analysis as JSON. -/
def Unavailable.toJson (u : Unavailable) : Json :=
  .object [("analyzer", .string u.analyzer), ("errors", .ofStrings u.errors)]

/-- A project that could not be scanned as JSON. -/
def failedProjectToJson (f : Workspace.FailedProject) : Json :=
  .object [("name", .string f.name), ("error", .string f.error)]

/-- The report on a project as JSON. -/
def ProjectReport.toJson (r : ProjectReport Float) : Json :=
  .object [
    ("projectName", .string r.projectName),
    ("kind", .string r.kind.name),
    ("overallScore", .ofFloat r.overallScore),
    ("summaries", .object (r.summaries.map fun (name, summary) => (name, summary.toJson))),
    ("recommendations", .array (r.recommendations.map Recommendation.toJson)),
    ("unavailable", .array (r.unavailable.map Unavailable.toJson))]

/-- The report on a workspace as JSON. -/
def WorkspaceReport.toJson (r : WorkspaceReport Float) : Json :=
  .object [
    ("timestamp", .string r.timestamp.text),
    ("projectReports", .array (r.projects.map ProjectReport.toJson)),
    ("aggregateHealth", .object [("score", .ofFloat r.score), ("trend", .string r.trend.name)]),
    ("criticalIssues", .object (r.criticalIssues.map fun (name, count) => (name, Json.ofNat count))),
    ("recommendations", .array (r.recommendations.map Recommendation.toJson)),
    ("partial", .bool r.isPartial),
    ("failedProjects", .array (r.failed.map failedProjectToJson))]

/-- The report on a workspace as indented JSON text. -/
def WorkspaceReport.jsonText (r : WorkspaceReport Float) : String :=
  r.toJson.pretty ++ "\n"

end Checkup.Health
