import Checkup.Number.Binary

/-!
# The numbers that scores are made of

Scores, weights and thresholds are computed over any type with the operations of `Measure`. A checkup runs on
doubles; the laws of scoring are about exact arithmetic, and the rationals are the same operations without
rounding.
-/

namespace Checkup

/-- The arithmetic, comparisons and texts that scoring needs. Comparisons are decided as they come out when
run: nothing is less than a number that is none. -/
class Measure (α : Type) extends Add α, Sub α, Mul α, Div α where
  ofNat : Nat → α
  /-- Whether the first is less than the second. -/
  lt : α → α → Bool
  /-- Whether the first is less than or equal to the second. -/
  le : α → α → Bool
  isNaN : α → Bool
  isFinite : α → Bool
  /-- The number as messages show it. -/
  text : α → String
  /-- The number with so many places after the point. -/
  fixedText : Nat → α → String

instance : Measure Float where
  ofNat := Float.ofNat
  lt x y := x < y
  le x y := x ≤ y
  isNaN := Float.isNaN
  isFinite := Float.isFinite
  text := Number.plainText
  fixedText := Number.fixedText

instance : Measure Rat where
  ofNat n := n
  lt x y := x < y
  le x y := x ≤ y
  isNaN _ := false
  isFinite _ := true
  text x := toString x.num ++ "/" ++ toString x.den
  fixedText places x :=
    String.ofList (Number.signed (x.num < 0) (Number.fixed places x.num.natAbs x.den))

namespace Measure

variable {α : Type} [Measure α]

/-- The lesser of two numbers; a number that is none gives way to the other. -/
def least (x y : α) : α :=
  if isNaN x then y else if isNaN y then x else if lt y x then y else x

/-- The number moved into the range from 0 to 100; what is no number becomes 0. -/
def clamp (x : α) : α :=
  if isNaN x then ofNat 0
  else if lt x (ofNat 0) then ofNat 0
  else if lt (ofNat 100) x then ofNat 100
  else x

/-- The sum of a list, from the left. -/
def sum (xs : List α) : α :=
  xs.foldl (· + ·) (ofNat 0)

end Measure

end Checkup
