/-!
# Decimal digits of a binary fraction

A positive rational is given by a numerator and a denominator. This module writes it in decimal, exactly:

* `roundDiv` — a quotient rounded to the nearest whole number, a half going to the even neighbour.
* `shortest` — the fewest digits that lie in an interval around the number.
* `positional`, `fixed` — digits laid out with a point.
-/

namespace Checkup.Number

/-- The quotient rounded to the nearest whole number; a half goes to the even neighbour. -/
def roundDiv (n d : Nat) : Nat :=
  let q := n / d
  let twice := 2 * (n % d)
  if twice < d then q else if d < twice then q + 1 else if q % 2 = 0 then q else q + 1

/-- The number `digits · 10 ^ exponent`. -/
structure Decimal where
  digits : Nat
  exponent : Int
  deriving DecidableEq, Repr

/-- The digits of a decimal, the most significant first. -/
def Decimal.text (x : Decimal) : List Char :=
  Nat.toDigits 10 x.digits

/-- The same number with no zero as its last digit; zero stays as it is. `fuel` bounds the zeros dropped. -/
def Decimal.strip : (fuel : Nat) → Decimal → Decimal
  | 0, x => x
  | fuel + 1, x =>
    if x.digits ≠ 0 && x.digits % 10 = 0 then strip fuel ⟨x.digits / 10, x.exponent + 1⟩ else x

/-- The quotient `n / d` divided by `10 ^ k`, as a numerator and a denominator. -/
def scale (n d : Nat) (k : Int) : Nat × Nat :=
  match k with
  | .ofNat j => (n, d * Nat.pow 10 j)
  | .negSucc j => (n * Nat.pow 10 (j + 1), d)

/-- The number of zeros that follow the point of `n / d`, `0 < n < d`, up to `fuel`. -/
def leadingZeros : (fuel n d : Nat) → Nat
  | 0, _, _ => 0
  | fuel + 1, n, d => if d ≤ 10 * n then 0 else leadingZeros fuel (10 * n) d + 1

/-- The exponent `e` with `10 ^ (e - 1) ≤ n / d < 10 ^ e`, for `n / d` no smaller than `10 ^ (-400)`. -/
def magnitude (n d : Nat) : Int :=
  if d ≤ n then (Nat.toDigits 10 (n / d)).length else -(leadingZeros 400 n d : Int)

/-- An interval around `value / unit`: from `low / unit` to `high / unit`, the ends included or not. -/
structure Interval where
  value : Nat
  low : Nat
  high : Nat
  unit : Nat
  closed : Bool
  deriving Repr

/-- Whether `digits · 10 ^ k` lies in the interval. -/
def Interval.contains (i : Interval) (digits : Nat) (k : Int) : Bool :=
  let (value, unit) := match k with
    | .ofNat j => (digits * Nat.pow 10 j * i.unit, 1)
    | .negSucc j => (digits * i.unit, Nat.pow 10 (j + 1))
  let low := i.low * unit
  let high := i.high * unit
  if i.closed then low ≤ value && value ≤ high else low < value && value < high

/-- Of the two neighbours of the value among the multiples of `10 ^ k`, the nearer that lies in the interval;
the even one if both are as near. -/
def Interval.neighbour? (i : Interval) (k : Int) : Option Nat :=
  let (n, d) := scale i.value i.unit k
  let below := n / d
  let nearest := roundDiv n d
  if i.contains nearest k then some nearest
  else if i.contains below k then some below
  else if i.contains (below + 1) k then some (below + 1)
  else none

/-- The decimal with the fewest digits in the interval, where `count` digits have been tried already and at
most `fuel` more are. -/
def Interval.shortestFrom (i : Interval) (e : Int) : (fuel count : Nat) → Decimal
  | 0, count => ⟨(i.neighbour? (e - count)).getD 0, e - count⟩
  | fuel + 1, count =>
    match i.neighbour? (e - count) with
    | some digits => ⟨digits, e - count⟩
    | none => shortestFrom i e fuel (count + 1)

/-- The decimal with the fewest digits, at most seventeen, that lies in the interval, and the nearest to the
value among those. -/
def Interval.shortest (i : Interval) : Decimal :=
  (i.shortestFrom (magnitude i.value i.unit) 16 1).strip 20

/-- The decimal written with a point where it belongs and no exponent; whole numbers have no point. -/
def Decimal.positional (x : Decimal) : List Char :=
  match x.exponent with
  | .ofNat j => x.text ++ List.replicate j '0'
  | .negSucc j =>
    let digits := x.text
    let places := j + 1
    if places < digits.length then
      digits.take (digits.length - places) ++ '.' :: digits.drop (digits.length - places)
    else '0' :: '.' :: List.replicate (places - digits.length) '0' ++ digits

/-- The quotient `n / d` with so many places after the point, rounded to the nearest and a half to even. -/
def fixed (places n d : Nat) : List Char :=
  let digits := Nat.toDigits 10 (roundDiv (n * Nat.pow 10 places) d)
  let digits := List.replicate (places + 1 - digits.length) '0' ++ digits
  let whole := digits.take (digits.length - places)
  if places = 0 then whole else whole ++ '.' :: digits.drop (digits.length - places)

end Checkup.Number
