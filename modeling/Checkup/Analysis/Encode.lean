import Checkup.Analysis
import Checkup.Json.Value

/-!
# Analyses as JSON

An object with the members of each structure. Findings have a member `kind` in front, with the name of their
analyzer.
-/

namespace Checkup

/-! ### Parts -/

/-- A range as JSON. -/
def Duplication.LineRange.toJson (r : LineRange) : Json :=
  .object [("start", .ofNat r.start), ("end", .ofNat r.stop)]

/-- A duplicate as JSON. -/
def Duplication.Duplicate.toJson (d : Duplicate) : Json :=
  .object [("fileA", .string d.fileA), ("fileB", .string d.fileB), ("lineRangeA", d.rangeA.toJson),
    ("lineRangeB", d.rangeB.toJson), ("lineCount", .ofNat d.lineCount), ("sampleContent", .string d.sample)]

/-- A file with its complexity as JSON. -/
def Complexity.FileComplexity.toJson (f : FileComplexity) : Json :=
  .object [("path", .string f.path), ("complexity", .ofNat f.complexity), ("lines", .ofNat f.lines)]

/-- A dependency as JSON. -/
def Dependency.Entry.toJson (e : Entry) : Json :=
  .object [("name", .string e.name), ("version", .string e.version), ("dev", .bool e.dev)]

/-- An asset as JSON. -/
def Assets.Asset.toJson (a : Asset) : Json :=
  .object [("path", .string a.path), ("sizeBytes", .ofNat a.bytes)]

/-- An escape as JSON. -/
def Escapes.Escape.toJson (e : Escape) : Json :=
  .object [("kind", .string e.kind.name), ("path", .string e.path), ("line", .ofNat e.line)]

/-! ### Findings and runs -/

/-- Findings as JSON. -/
def Findings.toJson : Findings → Json
  | .duplication f => .object [("kind", .string "duplication"),
      ("matches", .array (f.duplicates.map (·.toJson))), ("filesScanned", .ofNat f.filesScanned),
      ("totalLines", .ofNat f.totalLines), ("duplicatedLines", .ofNat f.duplicatedLines),
      ("skippedFiles", .ofStrings f.skippedFiles)]
  | .complexity f => .object [("kind", .string "complexity"), ("files", .array (f.files.map (·.toJson))),
      ("maxFileComplexity", .ofNat f.maxFileComplexity), ("skippedFiles", .ofStrings f.skippedFiles)]
  | .dependency f => .object [("kind", .string "dependency"), ("manifest", .string f.manifest),
      ("dependencies", .array (f.entries.map (·.toJson))), ("outdated", .ofStrings f.outdated),
      ("outdatedChecked", .bool f.outdatedChecked), ("maxDependencies", .ofNat f.maxDependencies)]
  | .bundleSize f => .object [("kind", .string "bundle-size"), ("files", .array (f.assets.map (·.toJson))),
      ("totalBytes", .ofNat f.totalBytes), ("budgetBytes", .ofNat f.budgetBytes)]
  | .typeSafety f => .object [("kind", .string "type-safety"),
      ("findings", .array (f.escapes.map (·.toJson))), ("filesScanned", .ofNat f.filesScanned),
      ("totalLines", .ofNat f.totalLines), ("skippedFiles", .ofStrings f.skippedFiles)]

/-- A run of an analyzer as JSON. -/
def Analysis.toJson (a : Analysis) : Json :=
  .object [("analyzerName", .string a.analyzer), ("success", .bool a.success),
    ("data", .ofOption (·.toJson) a.findings), ("errors", .ofStrings a.errors)]

end Checkup
