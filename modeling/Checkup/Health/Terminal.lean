import Checkup.Health.Workspace

/-!
# The report on a terminal

A line for every project and analyzer, the urgent recommendations, and the health of the workspace. Colours
are escape sequences around a text; they are left out where the output is no terminal.
-/

namespace Checkup.Health

variable {α : Type} [Measure α]

/-- How a text looks: the codes of its escape sequence. -/
structure Look where
  codes : String

namespace Look

def bold : Look := ⟨"1"⟩
def dimmed : Look := ⟨"2"⟩
def red : Look := ⟨"31"⟩
def green : Look := ⟨"32"⟩
def yellow : Look := ⟨"33"⟩
def boldRed : Look := ⟨"1;31"⟩

/-- The look of a band. -/
def ofStatus : Status → Look
  | .healthy => green
  | .caution => yellow
  | .failing => boldRed

/-- The sequence that ends a look. -/
def reset : List Char := ['\x1b', '[', '0', 'm']

/-- A text with `start` put behind every end of a look inside it. `fuel` is at least the text's length. -/
def resume (start : List Char) : (fuel : Nat) → List Char → List Char
  | 0, cs => cs
  | _, [] => []
  | fuel + 1, c :: rest =>
    if (c :: rest).take 4 = reset then reset ++ start ++ resume start fuel (rest.drop 3)
    else c :: resume start fuel rest

/-- A text with a look, if colours are wanted. -/
def paint (colored : Bool) (look : Look) (text : String) : String :=
  if colored then
    let start := "\x1b[" ++ look.codes ++ "m"
    start ++ String.ofList (resume start.toList text.length text.toList) ++ String.ofList reset
  else text

end Look

namespace Terminal

/-- A text with blanks after it to fill `width` characters. -/
def padRight (width : Nat) (text : String) : String :=
  text ++ String.ofList (List.replicate (width - text.length) ' ')

/-- A text with blanks in front of it to fill `width` characters. -/
def padLeft (width : Nat) (text : String) : String :=
  String.ofList (List.replicate (width - text.length) ' ') ++ text

/-- A score, five characters wide. -/
def scoreText (score : α) : String :=
  padLeft 5 (Measure.fixedText 1 score)

/-- A score and its band. -/
def banded (colored : Bool) (score : α) (status : Status) : String :=
  let look := Look.ofStatus status
  look.paint colored (scoreText score) ++ "  " ++ look.paint colored status.name

/-- The line of a summary; without a profile there is no band. -/
def summaryLine (colored : Bool) (profiles : Profiles α) (name : String) (summary : Summary α) : String :=
  let score := match profiles.get? name with
    | some profile => banded colored summary.score (profile.thresholds.status summary.score)
    | none => scoreText summary.score
  "    " ++ padRight 14 name ++ score ++ "\n"

/-- The line of a failed analysis. -/
def unavailableLine (colored : Bool) (u : Unavailable) : String :=
  "    " ++ padRight 14 u.analyzer ++ Look.dimmed.paint colored "unavailable" ++ "  "
    ++ Look.dimmed.paint colored ("; ".intercalate u.errors) ++ "\n"

/-- The lines of a project. -/
def project (colored : Bool) (profiles : Profiles α) (r : ProjectReport α) : String :=
  "  " ++ Look.bold.paint colored r.projectName ++ " "
    ++ Look.dimmed.paint colored ("(" ++ r.kind.name ++ ")") ++ "  "
    ++ banded colored r.overallScore r.status ++ "\n"
    ++ String.join (r.summaries.map fun (name, summary) => summaryLine colored profiles name summary)
    ++ String.join (r.unavailable.map (unavailableLine colored))
    ++ "\n"

/-- The line of a project that could not be scanned. -/
def failedProject (colored : Bool) (f : Workspace.FailedProject) : String :=
  "  " ++ Look.red.paint colored "✗" ++ " " ++ Look.bold.paint colored f.name ++ "  "
    ++ Look.dimmed.paint colored f.error ++ "\n"

/-- The urgent recommendations, those for the workspace first. -/
def urgent (report : WorkspaceReport α) : List Recommendation :=
  (report.recommendations ++ report.projects.flatMap (·.recommendations)).filter (·.priority = .high)

/-- The lines of recommendations; nothing without any. -/
def recommendationList (colored : Bool) (rs : List Recommendation) : String :=
  if rs.isEmpty then ""
  else
    "\n  " ++ Look.bold.paint colored "Recommendations" ++ " (" ++ toString rs.length ++ "):\n"
      ++ String.join (rs.map fun r => "    " ++ Look.red.paint colored "•" ++ " " ++ r.message ++ "\n")

/-- The line on the workspace as a whole. -/
def overview (colored : Bool) (report : WorkspaceReport α) : String :=
  "\n  Workspace health: " ++ banded colored report.score (overallThresholds.status report.score) ++ "  "
    ++ Look.dimmed.paint colored ("trend: " ++ report.trend.name)
    ++ (if report.isPartial then "  " ++ Look.yellow.paint colored "PARTIAL (scan cancelled)" else "") ++ "\n"

end Terminal

open Terminal in
/-- The report as a terminal shows it. -/
def WorkspaceReport.terminalText (colored : Bool) (profiles : Profiles α) (report : WorkspaceReport α) :
    String :=
  "\n"
    ++ (if report.projects.isEmpty then
        "  " ++ Look.dimmed.paint colored "No projects were scanned." ++ "\n"
      else "")
    ++ String.join (report.projects.map (project colored profiles))
    ++ String.join (report.failed.map (failedProject colored))
    ++ recommendationList colored (urgent report)
    ++ overview colored report

end Checkup.Health
