import Checkup.Number.Binary

/-!
# Emitted assets

What a build has emitted, against a budget.
-/

namespace Checkup.Assets

/-- One emitted file. -/
structure Asset where
  path : String
  bytes : Nat
  deriving DecidableEq, Repr

/-- The assets of a project. -/
structure Findings where
  /-- The assets, the largest first. -/
  assets : List Asset
  totalBytes : Nat
  budgetBytes : Nat
  deriving DecidableEq, Repr

namespace Findings

/-- Whether the assets exceed the budget. -/
def isOverBudget (f : Findings) : Bool :=
  f.budgetBytes < f.totalBytes

/-- The largest asset. -/
def largest? (f : Findings) : Option Asset :=
  f.assets.head?

end Findings

/-- A size and its unit, after moving up to the first unit, of those left, in which it is less than 1024. -/
def inUnit (size : Float) (unit : String) : List String → Float × String
  | [] => (size, unit)
  | next :: units => if 1024 ≤ size then inUnit (size / 1024) next units else (size, unit)

/-- A number of bytes as messages show it. -/
def bytesText (bytes : Nat) : String :=
  let (size, unit) := inUnit (Float.ofNat bytes) "B" ["KB", "MB", "GB"]
  if unit = "B" then s!"{bytes} B" else s!"{Number.fixedText 1 size} {unit}"

end Checkup.Assets
