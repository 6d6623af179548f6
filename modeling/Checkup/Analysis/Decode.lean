import Checkup.Analysis
import Checkup.Json.Decode

/-!
# Analyses from JSON

Structures are read from objects with their members, in any order, or from arrays with the values in the order
of the members. The files that could not be read may be left out.
-/

namespace Checkup

/-! ### Parts -/

/-- The range that a value encodes. -/
def Duplication.LineRange.ofJson? (value : Json) : Option LineRange := do
  let field := Json.fieldAt (← Json.fields? ["start", "end"] value)
  return ⟨← Json.required Json.word? (field 0), ← Json.required Json.word? (field 1)⟩

/-- The duplicate that a value encodes. -/
def Duplication.Duplicate.ofJson? (value : Json) : Option Duplicate := do
  let field := Json.fieldAt
    (← Json.fields? ["fileA", "fileB", "lineRangeA", "lineRangeB", "lineCount", "sampleContent"] value)
  return {
    fileA := ← Json.required Json.string? (field 0)
    fileB := ← Json.required Json.string? (field 1)
    rangeA := ← Json.required LineRange.ofJson? (field 2)
    rangeB := ← Json.required LineRange.ofJson? (field 3)
    lineCount := ← Json.required Json.word? (field 4)
    sample := ← Json.required Json.string? (field 5) }

/-- The file with its complexity that a value encodes. -/
def Complexity.FileComplexity.ofJson? (value : Json) : Option FileComplexity := do
  let field := Json.fieldAt (← Json.fields? ["path", "complexity", "lines"] value)
  return ⟨← Json.required Json.string? (field 0), ← Json.required Json.word32? (field 1),
    ← Json.required Json.word? (field 2)⟩

/-- The dependency that a value encodes. -/
def Dependency.Entry.ofJson? (value : Json) : Option Entry := do
  let field := Json.fieldAt (← Json.fields? ["name", "version", "dev"] value)
  return ⟨← Json.required Json.string? (field 0), ← Json.required Json.string? (field 1),
    ← Json.required Json.bool? (field 2)⟩

/-- The asset that a value encodes. -/
def Assets.Asset.ofJson? (value : Json) : Option Asset := do
  let field := Json.fieldAt (← Json.fields? ["path", "sizeBytes"] value)
  return ⟨← Json.required Json.string? (field 0), ← Json.required Json.word? (field 1)⟩

/-- The escape that a value encodes. -/
def Escapes.Escape.ofJson? (value : Json) : Option Escape := do
  let field := Json.fieldAt (← Json.fields? ["kind", "path", "line"] value)
  return ⟨← Json.required (Json.constant? (Kind.all.map fun k => (k.name, k))) (field 0),
    ← Json.required Json.string? (field 1), ← Json.required Json.word? (field 2)⟩

/-! ### Findings -/

/-- The findings of a scan for duplicates that a value encodes. -/
def Duplication.Findings.ofJson? (value : Json) : Option Findings := do
  let field := Json.fieldAt
    (← Json.fields? ["matches", "filesScanned", "totalLines", "duplicatedLines", "skippedFiles"] value)
  return {
    duplicates := ← Json.required (Json.list? Duplicate.ofJson?) (field 0)
    filesScanned := ← Json.required Json.word? (field 1)
    totalLines := ← Json.required Json.word? (field 2)
    duplicatedLines := ← Json.required Json.word? (field 3)
    skippedFiles := ← Json.withDefault (Json.list? Json.string?) [] (field 4) }

/-- The complexity findings that a value encodes. -/
def Complexity.Findings.ofJson? (value : Json) : Option Findings := do
  let field := Json.fieldAt (← Json.fields? ["files", "maxFileComplexity", "skippedFiles"] value)
  return {
    files := ← Json.required (Json.list? FileComplexity.ofJson?) (field 0)
    maxFileComplexity := ← Json.required Json.word32? (field 1)
    skippedFiles := ← Json.withDefault (Json.list? Json.string?) [] (field 2) }

/-- The dependency findings that a value encodes. -/
def Dependency.Findings.ofJson? (value : Json) : Option Findings := do
  let field := Json.fieldAt
    (← Json.fields? ["manifest", "dependencies", "outdated", "outdatedChecked", "maxDependencies"] value)
  return {
    manifest := ← Json.required Json.string? (field 0)
    entries := ← Json.required (Json.list? Entry.ofJson?) (field 1)
    outdated := ← Json.required (Json.list? Json.string?) (field 2)
    outdatedChecked := ← Json.required Json.bool? (field 3)
    maxDependencies := ← Json.required Json.word? (field 4) }

/-- The asset findings that a value encodes. -/
def Assets.Findings.ofJson? (value : Json) : Option Findings := do
  let field := Json.fieldAt (← Json.fields? ["files", "totalBytes", "budgetBytes"] value)
  return {
    assets := ← Json.required (Json.list? Asset.ofJson?) (field 0)
    totalBytes := ← Json.required Json.word? (field 1)
    budgetBytes := ← Json.required Json.word? (field 2) }

/-- The escape findings that a value encodes. -/
def Escapes.Findings.ofJson? (value : Json) : Option Findings := do
  let field := Json.fieldAt (← Json.fields? ["findings", "filesScanned", "totalLines", "skippedFiles"] value)
  return {
    escapes := ← Json.required (Json.list? Escape.ofJson?) (field 0)
    filesScanned := ← Json.required Json.word? (field 1)
    totalLines := ← Json.required Json.word? (field 2)
    skippedFiles := ← Json.withDefault (Json.list? Json.string?) [] (field 3) }

/-- The findings of a named kind that a value encodes. -/
def Findings.ofKind? (kind : String) (value : Json) : Option Findings :=
  match kind with
  | "duplication" => (Duplication.Findings.ofJson? value).map .duplication
  | "complexity" => (Complexity.Findings.ofJson? value).map .complexity
  | "dependency" => (Dependency.Findings.ofJson? value).map .dependency
  | "bundle-size" => (Assets.Findings.ofJson? value).map .bundleSize
  | "type-safety" => (Escapes.Findings.ofJson? value).map .typeSafety
  | _ => none

/-- The findings that a value encodes. In an array the kind comes first. -/
def Findings.ofJson? : Json → Option Findings
  | .object members => do ofKind? (← (Json.member? "kind" members).bind Json.string?) (.object members)
  | .array (.string kind :: rest) => ofKind? kind (.array rest)
  | _ => none

/-- The run of an analyzer that a value encodes. -/
def Analysis.ofJson? (value : Json) : Option Analysis := do
  let field := Json.fieldAt (← Json.fields? ["analyzerName", "success", "data", "errors"] value)
  return {
    analyzer := ← Json.required Json.string? (field 0)
    success := ← Json.required Json.bool? (field 1)
    findings := ← Json.optional Findings.ofJson? (field 2)
    errors := ← Json.required (Json.list? Json.string?) (field 3) }

end Checkup
