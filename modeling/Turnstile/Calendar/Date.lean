/-!
# Calendar dates

Dates of the proleptic Gregorian calendar and their numbers, counted in days
from 1970-01-01.  A computation by whole eras of 400 years starts each year in
March, so that a leap day is the last day of its year.
-/

namespace Turnstile
namespace Calendar

/-- A year, a month from 1 to 12 and a day of that month. -/
structure Date where
  year : Int
  month : Nat
  day : Nat
deriving DecidableEq, Repr

namespace Date

/-- Whether a year has a leap day. -/
def isLeapYear (year : Int) : Bool :=
  year % 4 = 0 && (year % 100 ≠ 0 || year % 400 = 0)

/-- The number of days of a month. -/
def daysInMonth (year : Int) (month : Nat) : Nat :=
  if month = 2 then (if isLeapYear year then 29 else 28)
  else if month = 4 || month = 6 || month = 9 || month = 11 then 30
  else 31

/-- Whether a date exists. -/
def isValid (date : Date) : Bool :=
  1 ≤ date.month && date.month ≤ 12 &&
    1 ≤ date.day && date.day ≤ daysInMonth date.year date.month

/-- The number of the days in an era of 400 years. -/
def daysPerEra : Int := 146097

/-- Days from the start of the first era to the day numbered zero. -/
def epochOffset : Int := 719468

/-- The number of a date. -/
def number (date : Date) : Int :=
  let year := if date.month ≤ 2 then date.year - 1 else date.year
  let month := if date.month ≤ 2 then date.month + 9 else date.month - 3
  let era := year / 400
  let yearOfEra := year % 400
  let dayOfYear : Int := ((153 * month + 2) / 5 + date.day : Nat) - 1
  let dayOfEra :=
    yearOfEra * 365 + yearOfEra / 4 - yearOfEra / 100 + dayOfYear
  era * daysPerEra + dayOfEra - epochOffset

/-- The date with a given number. -/
def ofNumber (number : Int) : Date :=
  let shifted := number + epochOffset
  let era := shifted / daysPerEra
  let dayOfEra := shifted % daysPerEra
  let yearOfEra :=
    (dayOfEra - dayOfEra / 1460 + dayOfEra / 36524 - dayOfEra / 146096) / 365
  let dayOfYear :=
    dayOfEra - (365 * yearOfEra + yearOfEra / 4 - yearOfEra / 100)
  let month := (5 * dayOfYear + 2) / 153
  let day := dayOfYear - (153 * month + 2) / 5 + 1
  let late := 10 ≤ month
  { year := yearOfEra + era * 400 + (if late then 1 else 0)
    month := (if late then month - 9 else month + 3).toNat
    day := day.toNat }

end Date
end Calendar
end Turnstile
