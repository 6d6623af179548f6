import Checkup.Config.Basic
import Checkup.Json.Value

/-!
# Configurations as JSON
-/

namespace Checkup

/-- A change to thresholds as JSON. -/
def ThresholdSetting.toJson : ThresholdSetting Float → Json
  | .warning value => .ofFloat value
  | .bands low high => .object [("critical", .ofFloat low), ("warning", .ofFloat high)]

/-- A configuration as JSON, with all its settings. -/
def Config.toJson (c : Config Float) : Json :=
  .object [("enabled_analyzers", .ofStrings c.enabledAnalyzers), ("exclude_paths", .ofStrings c.excludePaths),
    ("thresholds", .object (c.thresholds.map fun (name, setting) => (name, setting.toJson))),
    ("weights", .object (c.weights.map fun (name, weight) => (name, Json.ofFloat weight))),
    ("duplication", .object [("min_lines", .ofNat c.duplication.minLines),
      ("min_chars", .ofNat c.duplication.minChars), ("max_window", .ofNat c.duplication.maxWindow)]),
    ("complexity", .object [("max_file_complexity", .ofNat c.complexity.maxFileComplexity)]),
    ("dependency", .object [("max_dependencies", .ofNat c.dependency.maxDependencies),
      ("outdated_command", .ofStrings c.dependency.outdatedCommand)]),
    ("bundle", .object [("output_dirs", .ofStrings c.bundle.outputDirs),
      ("budget_kb", .ofNat c.bundle.budgetKb)]),
    ("workspace", .object [("applications", .ofStrings c.workspace.applications),
      ("libraries", .ofStrings c.workspace.libraries)]),
    ("jobs", .ofOption .ofNat c.jobs), ("debug", .bool c.debug)]

end Checkup
