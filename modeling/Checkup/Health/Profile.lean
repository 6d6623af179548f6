import Checkup.Config.Basic
import Checkup.Health.Score

/-!
# Profiles

A profile says how the findings of one analyzer count: their weight, the bands of their score, and how they
are scored and summed up. A profile reads the findings of its own analyzer and no others.

`Profiles.ofConfig` are the built-in profiles with the weights and thresholds of a configuration.
-/

namespace Checkup.Health

variable {α : Type}

/-- How the findings of one analyzer count. -/
structure Profile (α : Type) where
  name : String
  weight : α
  thresholds : Thresholds α
  /-- The score of findings that the profile reads, in range or not. -/
  rawScore? : Findings → Option α
  /-- The summary of findings that the profile reads, its score in range or not. -/
  rawSummary? : Findings → Option (Summary α)

namespace Profile

variable [Measure α]

/-- The score of findings that the profile reads. -/
def score? (p : Profile α) (findings : Findings) : Option α :=
  (p.rawScore? findings).map Measure.clamp

/-- The summary of findings that the profile reads. -/
def summarize? (p : Profile α) (findings : Findings) : Option (Summary α) :=
  (p.rawSummary? findings).map fun summary => { summary with score := Measure.clamp summary.score }

/-- So many hundredths. -/
def hundredths (n : Nat) : α :=
  Measure.ofNat n / Measure.ofNat 100

/-- The profile of duplicates. -/
def duplication : Profile α where
  name := AnalyzerName.duplication
  weight := hundredths 25
  thresholds := ⟨Measure.ofNat 60, Measure.ofNat 80⟩
  rawScore?
    | .duplication found => some found.score
    | _ => none
  rawSummary?
    | .duplication found => some found.summary
    | _ => none

/-- The profile of complexity. -/
def complexity : Profile α where
  name := AnalyzerName.complexity
  weight := hundredths 25
  thresholds := ⟨Measure.ofNat 50, Measure.ofNat 75⟩
  rawScore?
    | .complexity found => some found.score
    | _ => none
  rawSummary?
    | .complexity found => some found.summary
    | _ => none

/-- The profile of dependencies. -/
def dependency : Profile α where
  name := AnalyzerName.dependency
  weight := hundredths 20
  thresholds := ⟨Measure.ofNat 50, Measure.ofNat 75⟩
  rawScore?
    | .dependency found => some found.score
    | _ => none
  rawSummary?
    | .dependency found => some found.summary
    | _ => none

/-- The profile of emitted assets. -/
def bundleSize : Profile α where
  name := AnalyzerName.bundleSize
  weight := hundredths 10
  thresholds := ⟨Measure.ofNat 50, Measure.ofNat 80⟩
  rawScore?
    | .bundleSize found => some found.score
    | _ => none
  rawSummary?
    | .bundleSize found => some found.summary
    | _ => none

/-- The profile of type-system escapes. -/
def typeSafety : Profile α where
  name := AnalyzerName.typeSafety
  weight := hundredths 20
  thresholds := ⟨Measure.ofNat 50, Measure.ofNat 75⟩
  rawScore?
    | .typeSafety found => some found.score
    | _ => none
  rawSummary?
    | .typeSafety found => some found.summary
    | _ => none

end Profile

/-- The thresholds after a change. A new warning threshold pulls the critical one down with it. -/
def Thresholds.change [Measure α] (t : Thresholds α) : ThresholdSetting α → Thresholds α
  | .warning value => ⟨Measure.least t.critical value, value⟩
  | .bands critical warning => ⟨critical, warning⟩

/-- Profiles in the order of registration. -/
abbrev Profiles (α : Type) := List (Profile α)

namespace Profiles

variable [Measure α]

/-- The built-in profiles. -/
def builtIn : Profiles α :=
  [.duplication, .complexity, .dependency, .bundleSize, .typeSafety]

/-- A profile with the weight and the thresholds that a configuration has under its name. -/
def configure (config : Config α) (p : Profile α) : Profile α :=
  { p with
    weight := (config.weights.lookup p.name).getD p.weight
    thresholds := (config.thresholds.lookup p.name).elim p.thresholds p.thresholds.change }

/-- The built-in profiles with the changes of a configuration. -/
def ofConfig (config : Config α) : Profiles α :=
  builtIn.map (configure config)

/-- The first profile with a name. -/
def get? (name : String) (profiles : Profiles α) : Option (Profile α) :=
  profiles.find? (·.name == name)

/-- The profiles with one more, in the place of the first of its name if there is one. -/
def register (profile : Profile α) : Profiles α → Profiles α
  | [] => [profile]
  | p :: rest => if p.name == profile.name then profile :: rest else p :: register profile rest

end Profiles

end Checkup.Health
