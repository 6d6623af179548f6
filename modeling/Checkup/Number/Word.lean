/-!
# Counts of one machine word

Sizes and line numbers are unsigned 64-bit words. Arithmetic on them is checked: a result that does not fit
is reported as the operation that overflowed, never wrapped.
-/

namespace Checkup

/-- The operation whose result did not fit a word. -/
inductive Overflow where
  | add
  | subtract
  | multiply
  deriving DecidableEq, Repr

namespace Overflow

/-- What is reported about an overflow. -/
def message : Overflow → String
  | .add => "attempt to add with overflow"
  | .subtract => "attempt to subtract with overflow"
  | .multiply => "attempt to multiply with overflow"

end Overflow

namespace Word

/-- One more than the largest word, `2 ^ 64`. -/
def size : Nat := 0x1_0000_0000_0000_0000

/-- The sum of two words. -/
def add (a b : Nat) : Except Overflow Nat :=
  if a + b < size then .ok (a + b) else .error .add

/-- The difference of two words. -/
def sub (a b : Nat) : Except Overflow Nat :=
  if b ≤ a then .ok (a - b) else .error .subtract

/-- The product of two words. -/
def mul (a b : Nat) : Except Overflow Nat :=
  if a * b < size then .ok (a * b) else .error .multiply

theorem add_eq_ok {a b : Nat} (h : a + b < size) : add a b = .ok (a + b) := by
  simp [add, h]

theorem lt_size_of_add_eq_ok {a b c : Nat} (h : add a b = .ok c) : a + b < size := by
  by_cases hlt : a + b < size
  · exact hlt
  · simp [add, hlt] at h

end Word

end Checkup
