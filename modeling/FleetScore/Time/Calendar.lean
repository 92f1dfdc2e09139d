/-!
# The Gregorian calendar, extended to all years

A date is a year, a month and a day; a *day number* counts days from the first of
January 1970.  The two determine each other, and both directions go through the
number of days before a year, which is a sum of quotients and therefore easy to
reason about: a year brings 365 days, every fourth one more, every hundredth one
less again, every four hundredth one more again.

The way back guesses the year from the mean length of a year, `146097 / 400`
days.  The guess is off by at most one, so one comparison on either side settles
it.
-/

namespace FleetScore

/-- A day of the Gregorian calendar, the months and the days counted from one; year zero is the
year before the first. -/
structure Date where
  year : Int
  month : Nat
  day : Nat
  deriving DecidableEq, Repr

namespace Calendar

/-- Whether a year has a 29th of February. -/
def isLeap (year : Int) : Bool :=
  year % 4 == 0 && (year % 100 != 0 || year % 400 == 0)

/-- The lengths of the twelve months. -/
def monthLengths (leap : Bool) : List Nat :=
  [31, if leap then 29 else 28, 31, 30, 31, 30, 31, 31, 30, 31, 30, 31]

/-- The length of a month, zero for a month that does not exist. -/
def monthLength (year : Int) (month : Nat) : Nat :=
  if month = 0 then 0 else ((monthLengths (isLeap year))[month - 1]?).getD 0

/-- The days from the first of January of year zero to that of a year. -/
def daysBeforeYear (year : Int) : Int :=
  365 * year + (year + 3) / 4 - (year + 99) / 100 + (year + 399) / 400

/-- The days from the first of January to the first of a month. -/
def daysBeforeMonth (year : Int) (month : Nat) : Nat :=
  ((monthLengths (isLeap year)).take (month - 1)).foldr (fun length days => length + days) 0

/-- The days before the first of January 1970. -/
def epochDays : Int := 719528

/-- The number of a day, counted from the first of January 1970. -/
def dayNumber (d : Date) : Int :=
  daysBeforeYear d.year + daysBeforeMonth d.year d.month + ((d.day : Int) - 1) - epochDays

/-- Finds a day, counted from zero, in a list of month lengths: the months passed
and the day in the month, both counted from zero. -/
def locate : List Nat → Nat → Nat × Nat
  | [], day => (0, day)
  | length :: rest, day =>
      if day < length then (0, day)
      else
        let found := locate rest (day - length)
        (found.1 + 1, found.2)

/-- The year of a day that lies `days` after the first of January of year zero. -/
def yearOf (days : Int) : Int :=
  let guess := 400 * days / 146097
  if days < daysBeforeYear guess then guess - 1
  else if daysBeforeYear (guess + 1) ≤ days then guess + 1
  else guess

/-- The date with a given day number. -/
def ofDayNumber (number : Int) : Date :=
  let days := number + epochDays
  let year := yearOf days
  let found := locate (monthLengths (isLeap year)) (days - daysBeforeYear year).toNat
  ⟨year, found.1 + 1, found.2 + 1⟩

/-- Whether a date exists. -/
def isValid (d : Date) : Bool :=
  decide (1 ≤ d.month ∧ d.month ≤ 12 ∧ 1 ≤ d.day ∧ d.day ≤ monthLength d.year d.month)

end Calendar
end FleetScore
