import Checkup.Time.Timestamp

/-!
# TOML scalars

Which words are numbers, truth values, dates and times.
-/

namespace Checkup.Toml

/-- Digits of a base, with single underscores between them allowed. -/
def areDigits (isDigit : Char → Bool) : (afterDigit : Bool) → List Char → Bool
  | afterDigit, [] => afterDigit
  | afterDigit, '_' :: rest => afterDigit && areDigits isDigit false rest && !rest.isEmpty
  | _, c :: rest => isDigit c && areDigits isDigit true rest

/-- Whether a character is a hexadecimal digit. -/
def isHex (c : Char) : Bool :=
  c.isDigit || ('a' ≤ c && c ≤ 'f') || ('A' ≤ c && c ≤ 'F')

/-- The value of a digit in a base up to sixteen. -/
def digitValue (c : Char) : Nat :=
  if c.isDigit then c.toNat - 48 else if c.isUpper then c.toNat - 55 else c.toNat - 87

/-- The value of digits, underscores apart. -/
def digitsValue (base : Nat) (cs : List Char) : Nat :=
  (cs.filter (· ≠ '_')).foldl (fun n c => base * n + digitValue c) 0

/-- The text without a sign at its start. -/
def dropSign : List Char → List Char
  | '+' :: rest => rest
  | '-' :: rest => rest
  | cs => cs

/-- Whether a text is a decimal whole number without sign; a zero stands alone. -/
def isWhole (cs : List Char) : Bool :=
  cs = ['0'] || (cs.head? ≠ some '0' && areDigits Char.isDigit false cs)

/-- Whether a text is a whole number that a signed word of 64 bits holds. -/
def isInteger (cs : List Char) : Bool :=
  match cs with
  | '0' :: 'x' :: rest => areDigits isHex false rest && digitsValue 16 rest < Nat.pow 2 63
  | '0' :: 'o' :: rest => areDigits (fun c => '0' ≤ c && c ≤ '7') false rest && digitsValue 8 rest < Nat.pow 2 63
  | '0' :: 'b' :: rest => areDigits (fun c => c = '0' || c = '1') false rest && digitsValue 2 rest < Nat.pow 2 63
  | '-' :: rest => isWhole rest && digitsValue 10 rest ≤ Nat.pow 2 63
  | cs => isWhole (dropSign cs) && digitsValue 10 (dropSign cs) < Nat.pow 2 63

/-- Whether a text is an exponent after its mark. -/
def isExponent (cs : List Char) : Bool :=
  areDigits Char.isDigit false (dropSign cs)

/-- Whether a text is a number with a point, an exponent or both, or the name of one that is not finite. -/
def isFloat (cs : List Char) : Bool :=
  let body := dropSign cs
  if body = ['i', 'n', 'f'] || body = ['n', 'a', 'n'] then true
  else
    let isMark := fun c => c = 'e' || c = 'E'
    let (mantissa, exponent) := body.span (!isMark ·)
    let (whole, fraction) := mantissa.span (· ≠ '.')
    isWhole whole
      && (fraction.isEmpty || areDigits Char.isDigit false (fraction.drop 1))
      && (exponent.isEmpty || isExponent (exponent.drop 1))
      && !(fraction.isEmpty && exponent.isEmpty)

/-- The digits of a number of fixed width at the start of a text. -/
def fixedNumber (width : Nat) (cs : List Char) : Option (Nat × List Char) :=
  let digits := cs.take width
  if digits.length = width && digits.all Char.isDigit then some (digitsValue 10 digits, cs.drop width) else none

/-- The text after a date. -/
def afterDate (cs : List Char) : Option (List Char) := do
  let (year, cs) ← fixedNumber 4 cs
  guard (cs.head? = some '-')
  let (month, cs) ← fixedNumber 2 (cs.drop 1)
  guard (cs.head? = some '-')
  let (day, cs) ← fixedNumber 2 (cs.drop 1)
  guard (1 ≤ month && month ≤ 12 && 1 ≤ day && day ≤ Time.daysInMonth year month)
  return cs

/-- The text after a time of day. -/
def afterTime (cs : List Char) : Option (List Char) := do
  let (hour, cs) ← fixedNumber 2 cs
  guard (cs.head? = some ':')
  let (minute, cs) ← fixedNumber 2 (cs.drop 1)
  guard (cs.head? = some ':')
  let (second, cs) ← fixedNumber 2 (cs.drop 1)
  guard (hour ≤ 23 && minute ≤ 59 && second ≤ 60)
  match cs with
  | '.' :: rest => if rest.head?.any Char.isDigit then some (rest.dropWhile Char.isDigit) else none
  | cs => some cs

/-- Whether a text is an offset from universal time, or nothing. -/
def isOffset (cs : List Char) : Bool :=
  match cs with
  | [] | ['Z'] | ['z'] => true
  | sign :: rest =>
    (sign = '+' || sign = '-') &&
      match fixedNumber 2 rest with
      | some (hours, ':' :: rest) =>
        match fixedNumber 2 rest with
        | some (minutes, []) => hours ≤ 23 && minutes ≤ 59
        | _ => false
      | _ => false

/-- Whether a text is a date, a time or both. -/
def isMoment (cs : List Char) : Bool :=
  match afterDate cs with
  | some [] => true
  | some (c :: rest) => (c = 'T' || c = 't' || c = ' ') && ((afterTime rest).map isOffset).getD false
  | none => afterTime cs = some []

/-- Whether a word is a scalar. -/
def isScalar (cs : List Char) : Bool :=
  String.ofList cs = "true" || String.ofList cs = "false" || isInteger cs || isFloat cs || isMoment cs

end Checkup.Toml
