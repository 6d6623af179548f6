import Checkup.Text.Blank

/-!
# Points in time

A point in time is a date and a time of day in universal time, exact to the nanosecond. `Timestamp.parse?`
reads it in the Internet's format, and `Timestamp.text` writes it.

Reading is lenient: blanks may stand around every part, parts may have fewer digits, years may be signed, and
a blank may stand in for the letter between date and time. Writing has one form for each point in time.
-/

namespace Checkup.Time

/-- A date and a time of day in universal time. -/
structure Timestamp where
  /-- The days since 1970-01-01. -/
  day : Int
  /-- The seconds since midnight. -/
  second : Nat
  /-- The nanoseconds since the second began; they go up to two seconds when a leap second follows. -/
  nanosecond : Nat
  deriving DecidableEq, Repr

/-- The point in time some seconds and nanoseconds after the beginning of 1970. -/
def Timestamp.ofSeconds (seconds : Int) (nanosecond : Nat) : Timestamp :=
  ⟨seconds / 86400, (seconds % 86400).toNat, nanosecond⟩

/-! ### Dates -/

/-- A date of the Gregorian calendar. -/
structure Date where
  year : Int
  month : Nat
  day : Nat
  deriving DecidableEq, Repr

/-- Whether a year has a 29th of February. -/
def isLeapYear (year : Int) : Bool :=
  year % 4 = 0 && (year % 100 ≠ 0 || year % 400 = 0)

/-- The number of days of a month. -/
def daysInMonth (year : Int) (month : Nat) : Nat :=
  match month with
  | 4 | 6 | 9 | 11 => 30
  | 2 => if isLeapYear year then 29 else 28
  | _ => 31

/-- The earliest year. -/
def minYear : Int := -262143

/-- The latest year. -/
def maxYear : Int := 262142

/-- Whether there is such a date, of the years that are supported. -/
def Date.isValid (d : Date) : Bool :=
  minYear ≤ d.year && d.year ≤ maxYear && 1 ≤ d.month && d.month ≤ 12 && 1 ≤ d.day
    && d.day ≤ daysInMonth d.year d.month

/-- The days from 1970-01-01 to a date. Years are counted from March here, so that the leap day comes last. -/
def Date.toDays (d : Date) : Int :=
  let year := if d.month ≤ 2 then d.year - 1 else d.year
  let era := year / 400
  let yearOfEra := year % 400
  let month : Int := ((d.month : Int) + 9) % 12
  let dayOfYear := (153 * month + 2) / 5 + d.day - 1
  era * 146097 + yearOfEra * 365 + yearOfEra / 4 - yearOfEra / 100 + dayOfYear - 719468

/-- The date so many days after 1970-01-01. -/
def Date.ofDays (days : Int) : Date :=
  let shifted := days + 719468
  let era := shifted / 146097
  let dayOfEra := shifted % 146097
  let yearOfEra := (dayOfEra - dayOfEra / 1460 + dayOfEra / 36524 - dayOfEra / 146096) / 365
  let dayOfYear := dayOfEra - (365 * yearOfEra + yearOfEra / 4 - yearOfEra / 100)
  let month := (5 * dayOfYear + 2) / 153
  let day := dayOfYear - (153 * month + 2) / 5 + 1
  let month := if month < 10 then month + 3 else month - 9
  let year := yearOfEra + era * 400 + (if month ≤ 2 then 1 else 0)
  ⟨year, month.toNat, day.toNat⟩

/-! ### Writing -/

/-- A number with zeros in front to fill `width` digits. -/
def padded (width n : Nat) : String :=
  let digits := Nat.toDigits 10 n
  String.ofList (List.replicate (width - digits.length) '0' ++ digits)

/-- A year with four digits, or with a sign if four digits do not hold it. -/
def yearText (year : Int) : String :=
  if 0 ≤ year && year ≤ 9999 then padded 4 year.toNat
  else (if year < 0 then "-" else "+") ++ padded 4 year.natAbs

/-- A date with hyphens between its parts. -/
def Date.text (d : Date) : String :=
  s!"{yearText d.year}-{padded 2 d.month}-{padded 2 d.day}"

namespace Timestamp

/-- The time of day in hours, minutes and seconds; a leap second is the 60th. -/
def clockText (t : Timestamp) : String :=
  let second := t.second % 60 + t.nanosecond / 1000000000
  s!"{padded 2 (t.second / 3600)}:{padded 2 (t.second / 60 % 60)}:{padded 2 second}"

/-- The fraction of the second, with three, six or nine digits, or nothing for a whole second. -/
def fractionText (t : Timestamp) : String :=
  let nanos := t.nanosecond % 1000000000
  if nanos = 0 then ""
  else if nanos % 1000000 = 0 then "." ++ padded 3 (nanos / 1000000)
  else if nanos % 1000 = 0 then "." ++ padded 6 (nanos / 1000)
  else "." ++ padded 9 nanos

/-- A point in time in the Internet's format. -/
def text (t : Timestamp) : String :=
  s!"{(Date.ofDays t.day).text}T{t.clockText}{t.fractionText}Z"

/-- A point in time for readers, to the second. -/
def displayText (t : Timestamp) : String :=
  s!"{(Date.ofDays t.day).text} {t.clockText} UTC"

end Timestamp

/-! ### Reading -/

/-- Reads a number of one to `most` digits, after blanks. -/
def readNumber (most : Nat) (cs : List Char) : Option (Nat × List Char) :=
  let cs := Text.trimStart cs
  let digits := (cs.take most).takeWhile Char.isDigit
  if digits.isEmpty then none
  else some (digits.foldl (fun n c => 10 * n + (c.toNat - 48)) 0, cs.drop digits.length)

/-- Reads a year, which has at most four digits unless it is signed. -/
def readYear (cs : List Char) : Option (Int × List Char) :=
  match Text.trimStart cs with
  | '-' :: rest => if rest.head?.any Char.isDigit then
      (readNumber rest.length rest).map fun (n, rest) => (-(n : Int), rest)
    else none
  | '+' :: rest => if rest.head?.any Char.isDigit then
      (readNumber rest.length rest).map fun (n, rest) => ((n : Int), rest)
    else none
  | rest => (readNumber 4 rest).map fun (n, rest) => ((n : Int), rest)

/-- Reads a character, after blanks. -/
def readMark (mark : Char) (cs : List Char) : Option (List Char) :=
  match Text.trimStart cs with
  | c :: rest => if c = mark then some rest else none
  | [] => none

/-- Reads a date. -/
def readDate (cs : List Char) : Option (Date × List Char) := do
  let (year, cs) ← readYear cs
  let (month, cs) ← readNumber 2 (← readMark '-' cs)
  let (day, cs) ← readNumber 2 (← readMark '-' cs)
  let date : Date := ⟨year, month, day⟩
  guard date.isValid
  return (date, cs)

/-- Reads the fraction of a second in nanoseconds, if there is one; digits after the ninth do not count. -/
def readFraction (cs : List Char) : Option (Nat × List Char) :=
  match cs with
  | '.' :: rest =>
    let digits := rest.takeWhile Char.isDigit
    if digits.isEmpty then none
    else
      let nine := (digits ++ List.replicate 9 '0').take 9
      some (nine.foldl (fun n c => 10 * n + (c.toNat - 48)) 0, rest.drop digits.length)
  | rest => some (0, rest)

/-- Reads a time of day as seconds and nanoseconds. The 60th second is a leap second. -/
def readClock (cs : List Char) : Option (Nat × Nat × List Char) := do
  let (hour, cs) ← readNumber 2 cs
  let (minute, cs) ← readNumber 2 (← readMark ':' cs)
  let (second, cs) ← readNumber 2 (← readMark ':' cs)
  let (nanos, cs) ← readFraction cs
  guard (hour ≤ 23 && minute ≤ 59 && second ≤ 60)
  let start := hour * 3600 + minute * 60
  if second = 60 then return (start + 59, nanos + 1000000000, cs)
  else return (start + second, nanos, cs)

/-- Reads two digits. -/
def readTwoDigits : List Char → Option (Nat × List Char)
  | a :: b :: rest =>
    if a.isDigit && b.isDigit then some (10 * (a.toNat - 48) + (b.toNat - 48), rest) else none
  | _ => none

/-- Reads the offset from universal time in seconds, with everything after it. -/
def readOffset (cs : List Char) : Option (Int × List Char) :=
  match cs with
  | 'Z' :: rest | 'z' :: rest => some (0, rest)
  | sign :: rest =>
    if (cs.take 3).map Char.toUpper = ['U', 'T', 'C'] then some (0, cs.drop 3)
    else if sign = '+' || sign = '-' || sign.toNat = 0x2212 then do
      let (hours, rest) ← readTwoDigits rest
      let (minutes, rest) ← readTwoDigits (rest.dropWhile fun c => c = ':' || Text.isBlank c)
      guard (minutes ≤ 59 && hours ≤ 23)
      let seconds : Int := ((hours * 3600 + minutes * 60 : Nat) : Int)
      return (if sign = '+' then seconds else -seconds, rest)
    else none
  | [] => none

/-- Reads a point in time. -/
def Timestamp.parse? (text : String) : Option Timestamp := do
  let (date, cs) ← readDate text.toList
  let cs ← match cs with
    | c :: rest => if c = 'T' || c = 't' || c = ' ' then some rest else none
    | [] => none
  let (second, nanosecond, cs) ← readClock cs
  let (offset, cs) ← readOffset (Text.trimStart cs)
  guard (Text.trimStart cs).isEmpty
  let total := date.toDays * 86400 + second - offset
  let day := total / 86400
  let year := (Date.ofDays day).year
  guard (minYear ≤ year && year ≤ maxYear)
  return ⟨day, (total % 86400).toNat, nanosecond⟩

end Checkup.Time
