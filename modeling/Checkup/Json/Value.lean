import Checkup.Number.Binary

/-!
# JSON values

A value keeps what its text says and no more: a number is its literal (`Numeral`), an object is the list of
its members in order, a repeated name included. What the literal or the members mean is decided where they
are decoded, so a value that nobody looks at needs no meaning.

A string may name half of a surrogate pair alone. Such a string has no text; it is a value of its own,
`illFormed`, which only a reader that skips it accepts.
-/

namespace Checkup

/-- A number as it is written: `fraction` is empty without a point, `exponent` absent without a mark. -/
structure Numeral where
  negative : Bool
  whole : List Char
  fraction : List Char
  /-- Whether the exponent is negative, and its digits. -/
  exponent : Option (Bool × List Char)
  deriving DecidableEq, Repr

/-- A JSON value. -/
inductive Json where
  | null
  | bool (value : Bool)
  | number (numeral : Numeral)
  | string (text : String)
  /-- A string with an escape that names no character. -/
  | illFormed
  | array (items : List Json)
  /-- The members in order of writing. -/
  | object (members : List (String × Json))
  deriving Repr, Inhabited

namespace Numeral

/-- The value of decimal digits after a prefix of value `acc`. -/
def digitsValue (acc : Nat) (digits : List Char) : Nat :=
  digits.foldl (fun n c => 10 * n + (c.toNat - 48)) acc

/-- The literal of a natural number. -/
def ofNat (n : Nat) : Numeral :=
  ⟨false, Nat.toDigits 10 n, [], none⟩

/-- The value of a literal without sign, point and exponent, if it is less than `limit`. -/
def nat? (limit : Nat) (x : Numeral) : Option Nat :=
  if !x.negative && x.fraction.isEmpty && x.exponent.isNone then
    let n := digitsValue 0 x.whole
    if n < limit then some n else none
  else none

/-- The literal of the decimal `x`: digits with a point for the numbers from `10 ^ (-5)` up to and without
`10 ^ 16`, and one digit before the point and an exponent for the others. Every literal has a point or an
exponent. -/
def ofDecimal (negative : Bool) (x : Number.Decimal) : Numeral :=
  let digits := x.text
  let point := x.exponent + digits.length
  if 0 ≤ x.exponent && point ≤ 16 then
    ⟨negative, digits ++ List.replicate x.exponent.toNat '0', ['0'], none⟩
  else if 0 < point && point ≤ 16 then
    ⟨negative, digits.take point.toNat, digits.drop point.toNat, none⟩
  else if -5 < point && point ≤ 0 then
    ⟨negative, ['0'], List.replicate (-point).toNat '0' ++ digits, none⟩
  else
    ⟨negative, digits.take 1, digits.drop 1, some (point - 1 < 0, Nat.toDigits 10 (point - 1).natAbs)⟩

/-- The literal of a finite double: the shortest digits that read back. -/
def ofFloat? (x : Float) : Option Numeral :=
  match Number.Binary.ofFloat x with
  | .finite negative mantissa exponent =>
    some (ofDecimal negative (Number.shortestDecimal mantissa exponent))
  | _ => none

/-- The digits of a significand as they are read one by one: those that still fit a word make `value`, and
from the first that does not on, none counts. `dropped` tells whether that point is reached. -/
structure Significand where
  value : Nat
  dropped : Bool

/-- The significand with one more digit, and whether the digit counted. -/
def Significand.push (s : Significand) (c : Char) : Significand :=
  let next := 10 * s.value + (c.toNat - 48)
  if s.dropped || Nat.pow 2 64 ≤ next then ⟨s.value, true⟩ else ⟨next, false⟩

/-- The whole digits of a significand, and how many of them did not fit. -/
def wholeSignificand (digits : List Char) : Significand × Nat :=
  digits.foldl (fun (s, extra) c => let t := s.push c; (t, if t.dropped then extra + 1 else extra))
    (⟨0, false⟩, 0)

/-- The significand extended by the digits after the point, and how many of them fit. -/
def fractionSignificand (value : Nat) (digits : List Char) : Significand × Nat :=
  digits.foldl (fun (s, taken) c => let t := s.push c; (t, if t.dropped then taken else taken + 1))
    (⟨value, false⟩, 0)

/-- A power of ten. -/
def power (n : Nat) : Float :=
  Float.ofScientific 1 false n

/-- The double `x · 10 ^ exponent` by one multiplication or division where the power is a double, and by
steps of `10 ^ 308` below that; `none` when it is too large. `fuel` bounds the steps. -/
def scaled : (fuel : Nat) → (x : Float) → (exponent : Int) → Option Float
  | 0, x, _ => some x
  | fuel + 1, x, exponent =>
    if exponent.natAbs ≤ 308 then
      if 0 ≤ exponent then
        let y := x * power exponent.natAbs
        if y.isInf then none else some y
      else some (x / power exponent.natAbs)
    else if x == 0 then some x
    else if 0 ≤ exponent then none
    else scaled fuel (x / power 308) (exponent + 308)

/-- The double that a literal stands for, computed in binary arithmetic from the digits that fit a word;
`none` when it is too large. -/
def float? (x : Numeral) : Option Float := do
  let (whole, extra) := wholeSignificand x.whole
  let (all, taken) := fractionSignificand whole.value x.fraction
  let point : Int := (extra : Int) - taken
  let magnitude ← match x.exponent with
    | none => scaled 8 (Float.ofNat all.value) point
    | some (negative, digits) =>
      let e := digitsValue 0 digits
      if Nat.pow 2 31 ≤ e then
        if all.value ≠ 0 && !negative then none else some 0
      else scaled 8 (Float.ofNat all.value) (if negative then point - e else point + e)
  return if x.negative then -magnitude else magnitude

/-- The text of a literal. -/
def text (x : Numeral) : List Char :=
  (if x.negative then ['-'] else []) ++ x.whole
    ++ (if x.fraction.isEmpty then [] else '.' :: x.fraction)
    ++ match x.exponent with
      | none => []
      | some (negative, digits) => 'e' :: (if negative then ['-'] else []) ++ digits

end Numeral

namespace Json

/-- The value of a natural number. -/
def ofNat (n : Nat) : Json := number (.ofNat n)

/-- The value of a double; what is not finite has no number. -/
def ofFloat (x : Float) : Json :=
  match Numeral.ofFloat? x with
  | some literal => number literal
  | none => null

/-- The value of a list of strings. -/
def ofStrings (texts : List String) : Json := array (texts.map string)

/-- The value of an optional value. -/
def ofOption (f : α → Json) : Option α → Json
  | none => null
  | some a => f a

end Json

end Checkup
