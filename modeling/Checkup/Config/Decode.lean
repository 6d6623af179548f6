import Checkup.Config.Basic
import Checkup.Json.Decode

/-!
# Decoding a configuration

A configuration is read from a document of any format that tells records, lists and scalars apart
(`Document`); JSON is one. The fields of every record may be absent and then have their defaults. Members
that are no fields are passed over.
-/

namespace Checkup

/-- A format with records, lists and scalars. Each reader refuses what is not of its kind. -/
class Document (δ : Type) where
  /-- The fields of a record by their names, absent ones as `none`. -/
  fields? : List String → δ → Option (List (Option δ))
  /-- The fields of a record written with names. -/
  namedFields? : List String → δ → Option (List (Option δ))
  /-- The items of a list. -/
  items? : δ → Option (List δ)
  /-- The values of a table by their keys, ascending, each key once. -/
  entries? : δ → Option (List (String × δ))
  string? : δ → Option String
  bool? : δ → Option Bool
  /-- A natural number less than a limit. -/
  nat? : Nat → δ → Option Nat
  /-- A number where only a number can stand. -/
  float? : δ → Option Float
  /-- A number where other values can stand as well. -/
  looseFloat? : δ → Option Float
  /-- A value that may be left out; refused where it can be told to be neither. -/
  optional? : δ → Option (Option δ)

instance : Document Json where
  fields? := Json.fields?
  namedFields? names value :=
    match value with
    | .object _ => Json.fields? names value
    | _ => none
  items? := Json.list? some
  entries? := Json.sortedEntries? some
  string? := Json.string?
  bool? := Json.bool?
  nat? := Json.natBelow?
  float? := Json.float?
  looseFloat? := Json.float?
  optional? value := some (match value with | .null => none | other => some other)

namespace Document

variable {δ : Type} [Document δ]

/-- A field with a default for when it is absent. -/
def fieldOr (decode : δ → Option β) (default : β) (fields : List (Option δ)) (i : Nat) : Option β :=
  match (fields[i]?).join with
  | none => some default
  | some value => decode value

/-- A word of 64 bits. -/
def word? (value : δ) : Option Nat :=
  nat? (Nat.pow 2 64) value

/-- A list of strings. -/
def strings? (value : δ) : Option (List String) :=
  (items? value).bind (·.mapM string?)

/-- A table with decoded values. -/
def table? (decode : δ → Option β) (value : δ) : Option (List (String × β)) :=
  (entries? value).bind (·.mapM fun (key, value) => (decode value).map (key, ·))

/-- An optional word. -/
def optionalWord? (value : δ) : Option (Option Nat) :=
  match optional? value with
  | none => none
  | some none => some none
  | some (some value) => (word? value).map some

end Document

open Document

variable {δ : Type} [Document δ]

/-- Decodes a change to thresholds: a number, or a record of both. -/
def ThresholdSetting.decode? (value : δ) : Option (ThresholdSetting Float) :=
  match looseFloat? value with
  | some value => some (.warning value)
  | none => do
    let fields ← namedFields? ["critical", "warning"] value
    let low ← ((fields[0]?).join).bind looseFloat?
    let high ← ((fields[1]?).join).bind looseFloat?
    return .bands low high

/-- Decodes the settings of duplicate detection. -/
def Duplication.Settings.decode? (value : δ) : Option Duplication.Settings := do
  let fields ← fields? ["min_lines", "min_chars", "max_window"] value
  return {
    minLines := ← fieldOr word? 5 fields 0
    minChars := ← fieldOr word? 50 fields 1
    maxWindow := ← fieldOr word? 50 fields 2 }

/-- Decodes the settings of complexity. -/
def ComplexitySettings.decode? (value : δ) : Option ComplexitySettings := do
  let fields ← fields? ["max_file_complexity"] value
  return { maxFileComplexity := ← fieldOr (nat? (Nat.pow 2 32)) 20 fields 0 }

/-- Decodes the settings of dependencies. -/
def DependencySettings.decode? (value : δ) : Option DependencySettings := do
  let fields ← fields? ["max_dependencies", "outdated_command"] value
  return {
    maxDependencies := ← fieldOr word? 50 fields 0
    outdatedCommand := ← fieldOr strings? [] fields 1 }

/-- Decodes the settings of assets. -/
def BundleSettings.decode? (value : δ) : Option BundleSettings := do
  let fields ← fields? ["output_dirs", "budget_kb"] value
  return {
    outputDirs := ← fieldOr strings? ["dist", "build"] fields 0
    budgetKb := ← fieldOr word? 500 fields 1 }

/-- Decodes a layout. -/
def Layout.decode? (value : δ) : Option Layout := do
  let fields ← fields? ["applications", "libraries"] value
  return {
    applications := ← fieldOr strings? ["apps"] fields 0
    libraries := ← fieldOr strings? ["libs", "packages"] fields 1 }

/-- The names of the fields of a configuration. -/
def Config.fieldNames : List String :=
  ["enabled_analyzers", "exclude_paths", "thresholds", "weights", "duplication", "complexity", "dependency",
    "bundle", "workspace", "jobs", "debug"]

/-- Decodes a configuration. -/
def Config.decode? (value : δ) : Option (Config Float) := do
  let fields ← fields? Config.fieldNames value
  return {
    enabledAnalyzers := ← fieldOr strings? AnalyzerName.all fields 0
    excludePaths := ← fieldOr strings? ["**/*.min.js", "**/*.d.ts"] fields 1
    thresholds := ← fieldOr (table? ThresholdSetting.decode?) [] fields 2
    weights := ← fieldOr (table? float?) [] fields 3
    duplication := ← fieldOr Duplication.Settings.decode? {} fields 4
    complexity := ← fieldOr ComplexitySettings.decode? {} fields 5
    dependency := ← fieldOr DependencySettings.decode? {} fields 6
    bundle := ← fieldOr BundleSettings.decode? {} fields 7
    workspace := ← fieldOr Layout.decode? {} fields 8
    jobs := ← fieldOr optionalWord? none fields 9
    debug := ← fieldOr bool? false fields 10 }

end Checkup
