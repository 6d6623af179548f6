import Checkup.Health.Workspace

/-!
# The report as a web page

A page that stands on its own. Every text that is not part of the page's own frame is escaped, so that it
shows as it is and adds no markup.
-/

namespace Checkup.Health

variable {α : Type} [Measure α]

namespace Page

/-- What stands for a character in the text of a page. -/
def escapeChar (c : Char) : List Char :=
  match c with
  | '&' => ['&', 'a', 'm', 'p', ';']
  | '<' => ['&', 'l', 't', ';']
  | '>' => ['&', 'g', 't', ';']
  | '"' => ['&', 'q', 'u', 'o', 't', ';']
  | '\'' => ['&', '#', '3', '9', ';']
  | c => [c]

/-- A text as a page shows it. -/
def escape (text : String) : String :=
  String.ofList (text.toList.flatMap escapeChar)

/-- A score as a page shows it. -/
def scoreText (score : α) : String :=
  Measure.fixedText 1 score

/-- The style of the page. -/
def style : String :=
  "body\x7bfont-family:system-ui,sans-serif;margin:2rem;color:#222\x7d"
    ++ "table\x7bborder-collapse:collapse;margin-bottom:1.5rem\x7d"
    ++ "td,th\x7bborder:1px solid #ccc;padding:.3rem .7rem;text-align:left\x7d"
    ++ ".healthy\x7bcolor:#1a7f37\x7d.caution\x7bcolor:#9a6700\x7d"
    ++ ".failing\x7bcolor:#cf222e;font-weight:bold\x7d"
    ++ ".muted\x7bcolor:#777\x7d"

/-- The start of the page, up to the heading. -/
def head : String :=
  "<!DOCTYPE html>\n<html lang=\"en\">\n<head>\n<meta charset=\"utf-8\">\n"
    ++ "<title>Workspace health report</title>\n<style>" ++ style ++ "</style>\n</head>\n<body>\n"
    ++ "<h1>Workspace health report</h1>\n"

/-- The line on the workspace as a whole. -/
def overview (report : WorkspaceReport α) : String :=
  let status := overallThresholds.status report.score
  let note := if report.isPartial then " <strong>Partial report: the scan was cancelled.</strong>" else ""
  "<p>Generated " ++ report.timestamp.displayText ++ ". Health <span class=\"" ++ status.name ++ "\">"
    ++ scoreText report.score ++ "</span>, trend " ++ report.trend.name ++ "." ++ note ++ "</p>\n"

/-- A heading over a list of items; nothing without items. -/
def itemList (heading : String) (items : List String) : String :=
  if items.isEmpty then "" else heading ++ "<ul>\n" ++ String.join items ++ "</ul>\n"

/-- A recommendation for the workspace. -/
def workspaceRecommendation (r : Recommendation) : String :=
  "<li>[" ++ r.priority.name ++ "] " ++ escape r.message ++ " <span class=\"muted\">("
    ++ escape (", ".intercalate r.projects) ++ ")</span></li>\n"

/-- The row of a summary. -/
def summaryRow (profiles : Profiles α) (name : String) (summary : Summary α) : String :=
  let status := match profiles.get? name with
    | some profile => (profile.thresholds.status summary.score).name
    | none => ""
  "<tr><td>" ++ escape name ++ "</td><td>" ++ scoreText summary.score ++ "</td><td class=\"" ++ status
    ++ "\">" ++ status ++ "</td><td>" ++ toString summary.issues.length ++ "</td></tr>\n"

/-- The row of a failed analysis. -/
def unavailableRow (u : Unavailable) : String :=
  "<tr><td>" ++ escape u.analyzer ++ "</td><td>-</td><td class=\"muted\">unavailable</td><td>"
    ++ escape ("; ".intercalate u.errors) ++ "</td></tr>\n"

/-- A recommendation for a project. -/
def projectRecommendation (r : Recommendation) : String :=
  "<li>[" ++ r.priority.name ++ "] " ++ escape r.message ++ "</li>\n"

/-- The part of the page on one project. -/
def project (profiles : Profiles α) (r : ProjectReport α) : String :=
  "<h2>" ++ escape r.projectName ++ " <span class=\"muted\">" ++ r.kind.name ++ "</span> <span class=\""
    ++ r.status.name ++ "\">" ++ scoreText r.overallScore ++ "</span></h2>\n"
    ++ "<table>\n<tr><th>Analyzer</th><th>Score</th><th>Status</th><th>Issues</th></tr>\n"
    ++ String.join (r.summaries.map fun (name, summary) => summaryRow profiles name summary)
    ++ String.join (r.unavailable.map unavailableRow)
    ++ "</table>\n"
    ++ itemList "" (r.recommendations.map projectRecommendation)

/-- A project that could not be scanned. -/
def failedProject (f : Workspace.FailedProject) : String :=
  "<li>" ++ escape f.name ++ ": " ++ escape f.error ++ "</li>\n"

end Page

open Page in
/-- The report as a web page. -/
def WorkspaceReport.page (profiles : Profiles α) (report : WorkspaceReport α) : String :=
  head ++ overview report
    ++ itemList "<h2>Workspace recommendations</h2>\n" (report.recommendations.map workspaceRecommendation)
    ++ String.join (report.projects.map (project profiles))
    ++ itemList "<h2>Projects not scanned</h2>\n" (report.failed.map failedProject)
    ++ "</body>\n</html>\n"

end Checkup.Health
