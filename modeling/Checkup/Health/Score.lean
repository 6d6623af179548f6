import Checkup.Analysis
import Checkup.Health.Basic

/-!
# Scores and issues

What the findings of each analyzer come to. A score starts at 100 and loses points for what was found; it may
fall below 0 here and is moved into range by the profile that asks for it (`Profile.summarize?`).

The score and the issues are computed apart from each other, from the same findings.
-/

namespace Checkup

variable {α : Type} [Measure α]

open Checkup.Health Checkup.Measure

/-- The issues for files that could not be read. -/
def unreadableIssues (files : List String) : List Issue :=
  files.map fun file => ⟨"unreadable-file", .info, "file could not be read", some file⟩

namespace Duplication

/-- Duplicates of at least so many lines are critical. -/
def criticalLines : Nat := 50

namespace Findings

/-- The share of the lines that are in a duplicate, in percent. -/
def percentage (f : Findings) : α :=
  if f.totalLines = 0 then ofNat 0 else ofNat f.duplicatedLines / ofNat f.totalLines * ofNat 100

/-- Two points are lost for each percent of duplicated lines. -/
def score (f : Findings) : α :=
  if f.duplicates.isEmpty || f.totalLines = 0 then ofNat 100 else ofNat 100 - ofNat 2 * f.percentage

/-- The issue of one duplicate. -/
def issue (d : Duplicate) : Issue where
  kind := "duplicate-block"
  severity := if criticalLines ≤ d.lineCount then .critical else .warning
  message :=
    let a := s!"{d.fileA}:{d.rangeA.text}"
    let b := s!"{d.fileB}:{d.rangeB.text}"
    s!"{d.lineCount} lines duplicated between {a} and {b}"
  file := some d.fileA

/-- The findings summed up. -/
def summary (f : Findings) : Summary α where
  score := f.score
  issues := f.duplicates.map issue ++ unreadableIssues f.skippedFiles
  metrics := [
    ("duplicatedLines", ofNat f.duplicatedLines),
    ("duplicationPercentage", f.percentage),
    ("filesScanned", ofNat f.filesScanned),
    ("matchCount", ofNat f.duplicates.length),
    ("totalLines", ofNat f.totalLines)]

end Findings

end Duplication

namespace Complexity

/-- Whether a file is more than twice as complex as the limit. -/
def FileComplexity.isCritical (limit : Nat) (file : FileComplexity) : Bool :=
  2 * limit < file.complexity

namespace Findings

/-- The mean complexity, 0 without files. -/
def average (f : Findings) : α :=
  if f.files.isEmpty then ofNat 0
  else sum (f.files.map fun file => ofNat file.complexity) / ofNat f.files.length

/-- The share of the files within the limit, in percent, less two points for each critical file. -/
def score (f : Findings) : α :=
  if f.files.isEmpty then ofNat 100
  else
    let within := (f.files.filter (·.complexity ≤ f.maxFileComplexity)).length
    let critical := (f.files.filter (·.isCritical f.maxFileComplexity)).length
    ofNat 100 * ofNat within / ofNat f.files.length - ofNat 2 * ofNat critical

/-- The issue of one file above the limit. -/
def issue (limit : Nat) (file : FileComplexity) : Issue where
  kind := "high-complexity"
  severity := if file.isCritical limit then .critical else .warning
  message := s!"complexity {file.complexity} exceeds the limit of {limit}"
  file := some file.path

/-- The findings summed up. -/
def summary (f : Findings) : Summary α where
  score := f.score
  issues := f.overLimit.map (issue f.maxFileComplexity) ++ unreadableIssues f.skippedFiles
  metrics := [
    ("averageComplexity", f.average),
    ("filesAnalyzed", ofNat f.files.length),
    ("filesOverLimit", ofNat f.overLimit.length),
    ("maxComplexity", ofNat f.greatest)]

end Findings

end Complexity

namespace Dependency.Findings

/-- Ten points are lost for each dependency that is not pinned, five for each outdated one, and one for each
beyond the maximum. -/
def score (f : Findings) : α :=
  ofNat 100 - ofNat 10 * ofNat f.unpinned.length - ofNat 5 * ofNat f.outdated.length - ofNat f.excess

/-- The issue of a dependency that is not pinned. -/
def unpinnedIssue (manifest : String) (e : Entry) : Issue where
  kind := "unpinned-dependency"
  severity := if e.dev then .warning else .critical
  message :=
    let requirement := if e.version.isEmpty then "no version" else e.version
    s!"{e.name} accepts any version ({requirement})"
  file := some manifest

/-- The issue of a package with a newer release. -/
def outdatedIssue (name : String) : Issue :=
  ⟨"outdated-dependency", .info, s!"{name} has a newer release", none⟩

/-- The issue of dependencies beyond the maximum, if there are any. -/
def excessIssues (f : Findings) : List Issue :=
  if 0 < f.excess then
    let message :=
      s!"{f.directCount} direct dependencies, {f.excess} over the limit of {f.maxDependencies}"
    [⟨"too-many-dependencies", .warning, message, some f.manifest⟩]
  else []

/-- The findings summed up. -/
def summary (f : Findings) : Summary α where
  score := f.score
  issues := f.unpinned.map (unpinnedIssue f.manifest) ++ f.outdated.map outdatedIssue ++ f.excessIssues
  metrics :=
    [("dependencies", ofNat f.directCount), ("devDependencies", ofNat f.devCount)]
      ++ (if f.outdatedChecked then [("outdated", ofNat f.outdated.length)] else [])
      ++ [("unpinned", ofNat f.unpinned.length)]

end Dependency.Findings

namespace Assets.Findings

/-- Assets within their budget lose no point; beyond it the score is the share of the budget in what was
emitted, in percent. -/
def score (f : Findings) : α :=
  if f.totalBytes ≤ f.budgetBytes then ofNat 100
  else ofNat 100 * ofNat f.budgetBytes / ofNat f.totalBytes

/-- The issue of assets beyond their budget, if they are. -/
def budgetIssues (f : Findings) : List Issue :=
  if f.isOverBudget then
    let severity := if 2 * f.budgetBytes < f.totalBytes then Severity.critical else .warning
    let total := bytesText f.totalBytes
    let budget := bytesText f.budgetBytes
    [⟨"over-budget", severity, s!"build output is {total} against a budget of {budget}", none⟩]
  else []

/-- The issue that names the largest asset, if there is one. -/
def largestIssues (f : Findings) : List Issue :=
  match f.largest? with
  | some asset =>
    let size := bytesText asset.bytes
    [⟨"largest-asset", .info, s!"largest asset is {size}", some asset.path⟩]
  | none => []

/-- The findings summed up. -/
def summary (f : Findings) : Summary α where
  score := f.score
  issues := f.budgetIssues ++ f.largestIssues
  metrics := [
    ("assets", ofNat f.assets.length),
    ("budgetBytes", ofNat f.budgetBytes),
    ("largestAssetBytes", ofNat ((f.largest?.map (·.bytes)).getD 0)),
    ("totalBytes", ofNat f.totalBytes)]

end Assets.Findings

namespace Escapes.Findings

/-- The escapes per thousand lines. -/
def density (f : Findings) : α :=
  if f.totalLines = 0 then ofNat 0 else ofNat f.escapes.length * ofNat 1000 / ofNat f.totalLines

/-- Ten points are lost for each escape per thousand lines. -/
def score (f : Findings) : α :=
  ofNat 100 - ofNat 10 * f.density

/-- The issue of one file that is not checked at all. -/
def noCheckIssue (escape : Escape) : Issue :=
  ⟨Kind.noCheck.name, .critical, "type checking is disabled for the whole file", some escape.path⟩

/-- The issue of all escapes of one kind, if there are any; those that turn the checker off have issues of
their own. -/
def kindIssues (f : Findings) (kind : Kind) : List Issue :=
  if f.count kind = 0 || kind = .noCheck then []
  else
    let severity := if kind = .unsafeCode then Severity.info else .warning
    [⟨kind.name, severity, s!"{f.count kind} {kind.text} occurrences", none⟩]

/-- The findings summed up. -/
def summary (f : Findings) : Summary α where
  score := f.score
  issues :=
    (f.escapes.filter (·.kind = .noCheck)).map noCheckIssue ++ Kind.all.flatMap f.kindIssues
      ++ unreadableIssues f.skippedFiles
  metrics := [
    ("escapes", ofNat f.escapes.length),
    ("escapesPerKloc", f.density),
    (Kind.explicitAny.name, ofNat (f.count .explicitAny)),
    ("filesScanned", ofNat f.filesScanned),
    (Kind.ignoreDirective.name, ofNat (f.count .ignoreDirective)),
    (Kind.lintDisable.name, ofNat (f.count .lintDisable)),
    (Kind.noCheck.name, ofNat (f.count .noCheck)),
    ("totalLines", ofNat f.totalLines),
    (Kind.unsafeCode.name, ofNat (f.count .unsafeCode))]

end Escapes.Findings

end Checkup
