/-!
# The configuration to start from
-/

namespace Checkup

/-- A configuration file with every setting at its default and a word on each. -/
def Config.template : String :=
  String.join ([
    "# healthscan configuration",
    "#",
    "# Analyzers run in the order listed. Names that are not registered are skipped.",
    "enabled_analyzers:",
    "  - duplication",
    "  - complexity",
    "  - dependency",
    "  - bundle-size",
    "  - type-safety",
    "",
    "# Globs matched against paths relative to each project root.",
    "exclude_paths:",
    "  - \"**/*.min.js\"",
    "  - \"**/*.d.ts\"",
    "",
    "# A bare number replaces the warning threshold. Use the mapping form to set both.",
    "thresholds:",
    "  duplication:",
    "    critical: 60",
    "    warning: 80",
    "",
    "# Relative analyzer weights. Only successful analyzers count, and weights are",
    "# renormalized over them.",
    "weights:",
    "  duplication: 0.25",
    "  complexity: 0.25",
    "",
    "duplication:",
    "  min_lines: 5",
    "  min_chars: 50",
    "  max_window: 50",
    "",
    "complexity:",
    "  max_file_complexity: 20",
    "",
    "dependency:",
    "  max_dependencies: 50",
    "  # outdated_command: [\"npm\", \"outdated\", \"--json\"]",
    "",
    "bundle:",
    "  output_dirs: [dist, build]",
    "  budget_kb: 500",
    "",
    "workspace:",
    "  applications: [apps]",
    "  libraries: [libs, packages]",
    "",
    "# jobs: 4",
    "debug: false"].map (· ++ "\n"))

end Checkup
