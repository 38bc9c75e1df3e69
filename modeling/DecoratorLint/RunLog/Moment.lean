import DecoratorLint.Text.Decimal

/-!
# Moments

A moment is a number of seconds since the start of 1970, and it is shown as a date
and a time of day in universal time, as in `2024-02-29T23:59:59Z`.  Dates follow
the Gregorian calendar in both directions without end.
-/

namespace DecoratorLint

/-- A day of the calendar. -/
structure Date where
  year : Int
  month : Nat
  day : Nat
deriving Repr, DecidableEq

namespace Date

/-- The days of the 400 years after which the calendar repeats itself. -/
def daysOfCycle : Nat :=
  146097

/-- The number of days from the first of March of year zero to the start of
1970. -/
def daysBefore1970 : Int :=
  719468

/-- The date that lies a number of days after the start of 1970.  Years are counted
from March within a cycle, so that a leap day is the last of its year. -/
def ofDays (days : Int) : Date :=
  let shifted := days + daysBefore1970
  let cycle := shifted / daysOfCycle
  let dayOfCycle := (shifted % daysOfCycle).toNat
  let yearOfCycle :=
    (dayOfCycle - dayOfCycle / 1460 + dayOfCycle / 36524 - dayOfCycle / 146096) / 365
  let dayOfYear := dayOfCycle - (365 * yearOfCycle + yearOfCycle / 4 - yearOfCycle / 100)
  let monthFromMarch := (5 * dayOfYear + 2) / 153
  let month := if monthFromMarch < 10 then monthFromMarch + 3 else monthFromMarch - 9
  { year := cycle * 400 + yearOfCycle + if month ≤ 2 then 1 else 0
    month
    day := dayOfYear - (153 * monthFromMarch + 2) / 5 + 1 }

end Date

namespace Moment

/-- A number with zeros in front up to a width. -/
def padded (width number : Nat) : String :=
  let digits := Text.decimal number
  String.ofList (List.replicate (width - digits.length) '0' ++ digits)

/-- A year with four digits; outside the years 0 to 9999 it has a sign. -/
def yearText (year : Int) : String :=
  if year < 0 then
    "-" ++ padded 4 year.natAbs
  else if year > 9999 then
    "+" ++ padded 4 year.natAbs
  else
    padded 4 year.natAbs

/-- The date and the time of day of a moment. -/
def text (seconds : Int) : String :=
  let date := Date.ofDays (seconds / 86400)
  let time := (seconds % 86400).toNat
  yearText date.year ++ "-" ++ padded 2 date.month ++ "-" ++ padded 2 date.day ++
    "T" ++ padded 2 (time / 3600) ++ ":" ++ padded 2 (time / 60 % 60) ++ ":" ++
    padded 2 (time % 60) ++ "Z"

end Moment

end DecoratorLint
