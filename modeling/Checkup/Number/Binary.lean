import Checkup.Number.Decimal

/-!
# Text of floating-point numbers

A double is a sign and `mantissa · 2 ^ exponent`. Two texts are made of it: the shortest decimal that reads
back as the same double (`shortestDecimal`), and a decimal with a fixed number of places, rounded from the
exact value (`fixedText`).
-/

namespace Checkup.Number

/-- A double taken apart. -/
inductive Binary where
  | nan
  | infinite (negative : Bool)
  /-- The number `mantissa · 2 ^ exponent`, or its negative. -/
  | finite (negative : Bool) (mantissa : Nat) (exponent : Int)
  deriving DecidableEq, Repr

/-- The parts of a double. -/
def Binary.ofFloat (x : Float) : Binary :=
  let bits := x.toBits.toNat
  let negative := bits / Nat.pow 2 63 = 1
  let biased : Nat := bits / Nat.pow 2 52 % Nat.pow 2 11
  let fraction := bits % Nat.pow 2 52
  if biased = 2047 then
    if fraction = 0 then .infinite negative else .nan
  else if biased = 0 then .finite negative fraction (-1074)
  else .finite negative (fraction + Nat.pow 2 52) ((biased : Int) - 1075)

/-- The numbers that round to the double `mantissa · 2 ^ exponent`. Below a power of two the next double is
half as far away as above it. -/
def roundingInterval (mantissa : Nat) (exponent : Int) : Interval :=
  let below := if mantissa = Nat.pow 2 52 && exponent ≠ -1074 then 1 else 2
  let (up, unit) := match exponent - 2 with
    | .ofNat j => (Nat.pow 2 j, 1)
    | .negSucc j => (1, Nat.pow 2 (j + 1))
  { value := 4 * mantissa * up
    low := (4 * mantissa - below) * up
    high := (4 * mantissa + 2) * up
    unit := unit
    closed := mantissa % 2 = 0 }

/-- The shortest decimal that reads back as the double `mantissa · 2 ^ exponent`. -/
def shortestDecimal (mantissa : Nat) (exponent : Int) : Decimal :=
  if mantissa = 0 then ⟨0, 0⟩ else (roundingInterval mantissa exponent).shortest

/-- A minus sign in front of a negative number. -/
def signed (negative : Bool) (cs : List Char) : List Char :=
  if negative then '-' :: cs else cs

/-- A double as messages show it: the shortest digits that read back, without exponent and without a point in
whole numbers. -/
def plainText (x : Float) : String :=
  String.ofList <| match Binary.ofFloat x with
    | .nan => ['N', 'a', 'N']
    | .infinite negative => signed negative ['i', 'n', 'f']
    | .finite negative mantissa exponent =>
      signed negative (shortestDecimal mantissa exponent).positional

/-- A double with so many places after the point, rounded from its exact value, a half to even. -/
def fixedText (places : Nat) (x : Float) : String :=
  String.ofList <| match Binary.ofFloat x with
    | .nan => ['N', 'a', 'N']
    | .infinite negative => signed negative ['i', 'n', 'f']
    | .finite negative mantissa (.ofNat j) => signed negative (fixed places (mantissa * Nat.pow 2 j) 1)
    | .finite negative mantissa (.negSucc j) => signed negative (fixed places mantissa (Nat.pow 2 (j + 1)))

end Checkup.Number
