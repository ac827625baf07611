/-!
# The calendar

Days of the proleptic Gregorian calendar, counted from the first of January 1970.

* `Date.ofDays`, `Date.toDays` — the date of a day number and the day number of a date. Both count
  years from March, so that the leap day is the last of a year, in eras of 400 years.
* `Date.isValid` — whether a date exists.
-/

set_option autoImplicit false

namespace ParamSql

/-- A date; months and days are counted from one. -/
structure Date where
  year : Int
  month : Nat
  day : Nat
  deriving DecidableEq, Repr

namespace Date

/-- The day number of the first of March of the year 0. -/
def eraStart : Int := -719468

/-- The number of days in an era. -/
def daysPerEra : Int := 146097

/-- The date of a day number. -/
def ofDays (days : Int) : Date :=
  let z := days - eraStart
  let era := z / daysPerEra
  let dayOfEra := (z % daysPerEra).toNat
  let yearOfEra := (dayOfEra - dayOfEra / 1460 + dayOfEra / 36524 - dayOfEra / 146096) / 365
  let dayOfYear := dayOfEra - (365 * yearOfEra + yearOfEra / 4 - yearOfEra / 100)
  let shifted := (5 * dayOfYear + 2) / 153
  let day := dayOfYear - (153 * shifted + 2) / 5 + 1
  let month := if shifted < 10 then shifted + 3 else shifted - 9
  ⟨yearOfEra + era * 400 + (if month ≤ 2 then 1 else 0), month, day⟩

/-- The day number of a date. -/
def toDays (d : Date) : Int :=
  let year := if d.month ≤ 2 then d.year - 1 else d.year
  let era := year / 400
  let yearOfEra := (year % 400).toNat
  let shifted := if d.month ≤ 2 then d.month + 9 else d.month - 3
  let dayOfYear := (153 * shifted + 2) / 5 + d.day - 1
  let dayOfEra := 365 * yearOfEra + yearOfEra / 4 - yearOfEra / 100 + dayOfYear
  era * daysPerEra + dayOfEra + eraStart

/-- Whether a year has a leap day. -/
def isLeapYear (year : Int) : Bool :=
  year % 4 == 0 && (year % 100 != 0 || year % 400 == 0)

/-- The number of days of a month. -/
def daysInMonth (year : Int) (month : Nat) : Nat :=
  if month == 2 then (if isLeapYear year then 29 else 28)
  else if month == 4 || month == 6 || month == 9 || month == 11 then 30
  else 31

/-- The first year that dates go back to. -/
def minYear : Int := -262143

/-- The last year that dates reach. -/
def maxYear : Int := 262142

/-- Whether a date exists. -/
def isValid (d : Date) : Bool :=
  minYear ≤ d.year && d.year ≤ maxYear && 1 ≤ d.month && d.month ≤ 12
    && 1 ≤ d.day && d.day ≤ daysInMonth d.year d.month

end Date

end ParamSql
