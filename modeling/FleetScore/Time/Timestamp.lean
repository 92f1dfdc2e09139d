import FleetScore.Time.Instant
import FleetScore.Text.Blank
import FleetScore.Decimal.Natural
import FleetScore.Numeric.Word

/-!
# Timestamps as text

An instant is written in universal time, `2024-01-01T00:00:00.500Z`, with no
fraction or three, six or nine digits of it, the fewest that are exact.  A year
outside 0 to 9999 has a sign.  A leap second is written as second 60.

Reading is more generous than writing.  Blanks may stand before each number and
each separator; month, day and clock fields may have one digit; the date and the
clock are separated by `T`, `t` or a space; digits of the fraction beyond the
ninth are dropped; and the offset is `Z`, `UTC` in any case, or a sign, two digits
of hours and two of minutes, perhaps with colons or blanks in between.  What is
never accepted is a date that does not exist, a clock field out of range, an
offset of a day or more, a missing offset, or anything but blanks at the end.
-/

namespace FleetScore
namespace Timestamp

open Text (isBlank dropBlanks)
open Decimal (digitRun digitValue)

/-! ## Writing -/

/-- A natural number with at least `width` digits. -/
def padded (width n : Nat) : String := String.ofList (Decimal.padded width n)

/-- A year: four digits, or a sign and at least four digits. -/
def yearText (year : Int) : String :=
  if 0 ≤ year ∧ year ≤ 9999 then padded 4 year.toNat
  else (if year < 0 then "-" else "+") ++ padded 4 year.natAbs

/-- The fraction of a second, with the fewest of zero, three, six or nine digits. -/
def fractionText (nano : Nat) : String :=
  if nano = 0 then ""
  else if nano % 1000000 = 0 then "." ++ padded 3 (nano / 1000000)
  else if nano % 1000 = 0 then "." ++ padded 6 (nano / 1000)
  else "." ++ padded 9 nano

/-- A date. -/
def dateText (d : Date) : String :=
  yearText d.year ++ "-" ++ padded 2 d.month ++ "-" ++ padded 2 d.day

/-- The day an instant falls on. -/
def dateOf (t : Instant) : Date := Calendar.ofDayNumber (t.second / secondsPerDay)

/-- The second of the day of an instant. -/
def clockOf (t : Instant) : Nat := (t.second % secondsPerDay).toNat

/-- The second of the minute of an instant; 60 in a leap second. -/
def secondOf (t : Instant) : Nat :=
  clockOf t % 60 + (if 1000000000 ≤ t.nano then 1 else 0)

/-- The time of day of an instant, in whole seconds. -/
def clockText (t : Instant) : String :=
  padded 2 (clockOf t / 3600) ++ ":" ++ padded 2 (clockOf t / 60 % 60) ++ ":"
    ++ padded 2 (secondOf t)

/-- An instant in universal time. -/
def text (t : Instant) : String :=
  dateText (dateOf t) ++ "T" ++ clockText t ++ fractionText (t.nano % 1000000000) ++ "Z"

/-- An instant in universal time, in whole seconds, for people. -/
def spelled (t : Instant) : String := dateText (dateOf t) ++ " " ++ clockText t ++ " UTC"

/-! ## Reading -/

/-- A number of one to `limit` digits, and the rest. -/
def number? (limit : Nat) (s : List Char) : Option (Nat × List Char) :=
  match digitRun limit s with
  | ([], _) => none
  | (digits, rest) => some (Decimal.ofDigits digits, rest)

/-- A number in a range, after blanks. -/
def field? (limit low high : Nat) (s : List Char) : Option (Nat × List Char) := do
  let (n, rest) ← number? limit (dropBlanks s)
  if low ≤ n ∧ n ≤ high then some (n, rest) else none

/-- A year: up to four digits, or a sign and any number of digits. -/
def year? (s : List Char) : Option (Int × List Char) :=
  match dropBlanks s with
  | '-' :: rest => (number? rest.length rest).map fun r => (-(r.1 : Int), r.2)
  | '+' :: rest => (number? rest.length rest).map fun r => ((r.1 : Int), r.2)
  | s => (number? 4 s).map fun r => ((r.1 : Int), r.2)

/-- A given character, after blanks. -/
def mark? (c : Char) (s : List Char) : Option (List Char) :=
  match dropBlanks s with
  | d :: rest => if d = c then some rest else none
  | [] => none

/-- The nanoseconds after a point, if there is a point: up to nine digits count,
the others are dropped. -/
def fraction? (s : List Char) : Option (Nat × List Char) :=
  match s with
  | '.' :: rest =>
      match digitRun 9 rest with
      | ([], _) => none
      | (digits, rest) =>
          some (Decimal.ofDigits digits * tenTo (9 - digits.length),
            rest.dropWhile Char.isDigit)
  | s => some (0, s)

/-- Two digits. -/
def twoDigits? (s : List Char) : Option (Nat × List Char) :=
  match s with
  | a :: b :: rest =>
      if a.isDigit && b.isDigit then some (10 * digitValue a + digitValue b, rest) else none
  | _ => none

/-- A sign: whether it is negative, and the rest. -/
def sign? (s : List Char) : Option (Bool × List Char) :=
  match s with
  | '+' :: rest => some (false, rest)
  | '-' :: rest => some (true, rest)
  | '\u2212' :: rest => some (true, rest)
  | _ => none

/-- An offset from universal time, in seconds. -/
def offset? (s : List Char) : Option (Int × List Char) :=
  match s with
  | 'Z' :: rest => some (0, rest)
  | 'z' :: rest => some (0, rest)
  | u :: t :: c :: rest =>
      if u.toLower = 'u' ∧ t.toLower = 't' ∧ c.toLower = 'c' then some (0, rest) else signed?
  | _ => signed?
where
  /-- An offset with a sign, hours and minutes. -/
  signed? : Option (Int × List Char) := do
    let (negative, s) ← sign? s
    let (hours, s) ← twoDigits? s
    let (minutes, s) ← twoDigits? (s.dropWhile fun c => c == ':' || isBlank c)
    if minutes < 60 ∧ hours < 24 then
      let seconds : Int := ((hours * 60 + minutes) * 60 : Nat)
      some (if negative then -seconds else seconds, s)
    else none

/-- The first year that dates are read in. -/
def firstYear : Int := -262143

/-- The last year that dates are read in. -/
def lastYear : Int := 262142

/-- A date, and the rest. -/
def date? (s : List Char) : Option (Date × List Char) := do
  let (year, s) ← year? s
  let s ← mark? '-' s
  let (month, s) ← field? 2 1 12 s
  let s ← mark? '-' s
  let (day, s) ← field? 2 1 31 s
  let date : Date := ⟨year, month, day⟩
  if firstYear ≤ year ∧ year ≤ lastYear ∧ Calendar.isValid date = true then some (date, s)
  else none

/-- The separator between date and clock. -/
def separator? (s : List Char) : Option (List Char) :=
  match s with
  | c :: rest => if c = 'T' ∨ c = 't' ∨ c = ' ' then some rest else none
  | [] => none

/-- A time of day: the second of the day, the nanosecond, and the rest.  Second 60
is the second 59 with its fraction a thousand million further. -/
def clock? (s : List Char) : Option (Nat × Nat × List Char) := do
  let (hour, s) ← field? 2 0 23 s
  let s ← mark? ':' s
  let (minute, s) ← field? 2 0 59 s
  let s ← mark? ':' s
  let (second, s) ← field? 2 0 60 s
  let (nano, s) ← fraction? s
  let start := (hour * 60 + minute) * 60
  if second = 60 then some (start + 59, nano + 1000000000, s)
  else some (start + second, nano, s)

/-- Reads a timestamp; the answer is in universal time. -/
def read? (text : String) : Option Instant := do
  let (date, s) ← date? text.toList
  let s ← separator? s
  let (clock, nano, s) ← clock? s
  let (offset, s) ← offset? (dropBlanks s)
  if (dropBlanks s).isEmpty then
    Instant.at? (Calendar.dayNumber date * secondsPerDay + (clock : Int) - offset) nano
  else none

end Timestamp
end FleetScore
