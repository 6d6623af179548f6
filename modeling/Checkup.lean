import Checkup.Analysis
import Checkup.Analysis.Decode
import Checkup.Analysis.Encode
import Checkup.Analyzer.Basic
import Checkup.Analyzer.BuiltIn
import Checkup.Assets.Basic
import Checkup.Assets.Collect
import Checkup.Command.Line
import Checkup.Command.Options
import Checkup.Command.Run
import Checkup.Command.Usage
import Checkup.Command.Verbosity
import Checkup.Complexity.Basic
import Checkup.Complexity.Branches.C
import Checkup.Complexity.Branches.Java
import Checkup.Complexity.Branches.Python
import Checkup.Complexity.Branches.Rust
import Checkup.Complexity.Branches.Scala
import Checkup.Complexity.Branches.Script
import Checkup.Complexity.Branches.Swift
import Checkup.Complexity.Estimate
import Checkup.Complexity.Language
import Checkup.Complexity.Lexer
import Checkup.Complexity.Literal
import Checkup.Complexity.Measure
import Checkup.Config.Basic
import Checkup.Config.Decode
import Checkup.Config.Encode
import Checkup.Config.Load
import Checkup.Config.Template
import Checkup.Config.Validate
import Checkup.Dependency.Basic
import Checkup.Dependency.GoMod
import Checkup.Dependency.Manifest
import Checkup.Dependency.Outdated
import Checkup.Dependency.Requirement
import Checkup.Digest.Sha256
import Checkup.Duplication.Detect
import Checkup.Duplication.Fingerprint
import Checkup.Duplication.Key
import Checkup.Duplication.Measure
import Checkup.Duplication.Overlap
import Checkup.Duplication.Window
import Checkup.Entries
import Checkup.Escapes.Basic
import Checkup.Escapes.Scan
import Checkup.Files.Error
import Checkup.Files.Path
import Checkup.Files.Source
import Checkup.Files.Tree
import Checkup.Glob.Match
import Checkup.Glob.Pattern
import Checkup.Health.Basic
import Checkup.Health.Decode
import Checkup.Health.Encode
import Checkup.Health.Page
import Checkup.Health.Profile
import Checkup.Health.Project
import Checkup.Health.Score
import Checkup.Health.Terminal
import Checkup.Health.Workspace
import Checkup.Json.Decode
import Checkup.Json.Printer
import Checkup.Json.Reader
import Checkup.Json.Value
import Checkup.Main
import Checkup.Number.Binary
import Checkup.Number.Decimal
import Checkup.Number.Measure
import Checkup.Number.Word
import Checkup.Program.Output
import Checkup.Program.Shell
import Checkup.Program.Syntax
import Checkup.Text.Blank
import Checkup.Text.CodePoints
import Checkup.Text.Digit
import Checkup.Text.LetterCase
import Checkup.Text.Lines
import Checkup.Text.Quoted
import Checkup.Text.Search
import Checkup.Text.Utf8
import Checkup.Text.Word
import Checkup.Time.Timestamp
import Checkup.Toml.Reader
import Checkup.Toml.Scalar
import Checkup.Toml.Value
import Checkup.Workspace.Basic
import Checkup.Workspace.Discover
import Checkup.Workspace.Progress
import Checkup.Workspace.Resolve
import Checkup.Workspace.Scan
import Checkup.Yaml.Cursor
import Checkup.Yaml.Decode
import Checkup.Yaml.Node
import Checkup.Yaml.Scalar
import Checkup.Yaml.Token
import Checkup.Proofs.Analyzer.Agreement
import Checkup.Proofs.Analyzer.Inventory
import Checkup.Proofs.Analyzer.Overflow
import Checkup.Proofs.Command.Run
import Checkup.Proofs.Command.Verdict
import Checkup.Proofs.Complexity.Estimate
import Checkup.Proofs.Dependency.GoMod
import Checkup.Proofs.Dependency.Requirement
import Checkup.Proofs.Duplication.Candidate
import Checkup.Proofs.Duplication.Characters
import Checkup.Proofs.Duplication.Coverage
import Checkup.Proofs.Duplication.Detection
import Checkup.Proofs.Duplication.Enumeration
import Checkup.Proofs.Duplication.Greedy
import Checkup.Proofs.Duplication.Key
import Checkup.Proofs.Duplication.Layout
import Checkup.Proofs.Duplication.Pairing
import Checkup.Proofs.Duplication.Reading
import Checkup.Proofs.Duplication.Restriction
import Checkup.Proofs.Duplication.Spelling
import Checkup.Proofs.Duplication.Strings
import Checkup.Proofs.Duplication.Thinning
import Checkup.Proofs.Duplication.Ties
import Checkup.Proofs.Duplication.Window
import Checkup.Proofs.Entries
import Checkup.Proofs.Files.Join
import Checkup.Proofs.Files.Listing
import Checkup.Proofs.Files.Path
import Checkup.Proofs.Files.Source
import Checkup.Proofs.Files.Tree
import Checkup.Proofs.Health.Aggregate
import Checkup.Proofs.Health.Configuration
import Checkup.Proofs.Health.Explanation
import Checkup.Proofs.Health.Finite
import Checkup.Proofs.Health.Mean
import Checkup.Proofs.Health.Page
import Checkup.Proofs.Health.Recommendation
import Checkup.Proofs.Health.RoundTrip
import Checkup.Proofs.Health.Worsening
import Checkup.Proofs.Json.Decode
import Checkup.Proofs.Json.Literal
import Checkup.Proofs.Json.RoundTrip
import Checkup.Proofs.Number.Double
import Checkup.Proofs.Number.Measure
import Checkup.Proofs.Number.Range
import Checkup.Proofs.Number.Rounding
import Checkup.Proofs.Text.Blank
import Checkup.Proofs.Text.Division
import Checkup.Proofs.Text.LetterCase
import Checkup.Proofs.Text.Lines
import Checkup.Proofs.Text.Octets
import Checkup.Proofs.Text.Search
import Checkup.Proofs.Workspace.Enabled
import Checkup.Proofs.Workspace.Naming
import Checkup.Proofs.Workspace.Progress
import Checkup.Proofs.Workspace.Scan
import Checkup.Proofs.Workspace.Schedule
