import ParamSql.Number.Numeral
import ParamSql.Time.Calendar

/-!
# Points in time

A timestamp counts seconds from the start of 1970 in universal time, and the nanoseconds into the
second. A leap second is the second before it, prolonged: its nanoseconds go on from `10 ^ 9`.

* `Timestamp.print` — the timestamp as a date and time of RFC 3339, with the name of the zone
  given.
-/

set_option autoImplicit false

namespace ParamSql

/-- A point in time. -/
structure Timestamp where
  seconds : Int
  nanos : Nat
  deriving DecidableEq, Repr

namespace Timestamp

/-- The number of seconds of a day. -/
def secondsPerDay : Int := 86400

/-- The digits of a number, with zeros in front up to a width. -/
def padded (width n : Nat) : List Char :=
  let digits := digitsOf n
  List.replicate (width - digits.length) '0' ++ digits

/-- The characters of a year: four digits, outside of 0 to 9999 after a sign. -/
def printYear (year : Int) : List Char :=
  if 0 ≤ year && year ≤ 9999 then padded 4 year.toNat
  else (if year < 0 then '-' else '+') :: padded 4 year.natAbs

/-- The characters of a fraction of a second: none, three, six or nine digits, the fewest that are
exact. -/
def printFraction (nanos : Nat) : List Char :=
  if nanos == 0 then []
  else if nanos % 1000000 == 0 then '.' :: padded 3 (nanos / 1000000)
  else if nanos % 1000 == 0 then '.' :: padded 6 (nanos / 1000)
  else '.' :: padded 9 nanos

/-- The characters of a timestamp, with the text that names universal time at its end. -/
def print (zone : List Char) (t : Timestamp) : List Char :=
  let date := Date.ofDays (t.seconds / secondsPerDay)
  let second := (t.seconds % secondsPerDay).toNat
  let leap := t.nanos / 1000000000
  printYear date.year ++ '-' :: padded 2 date.month ++ '-' :: padded 2 date.day
    ++ 'T' :: padded 2 (second / 3600) ++ ':' :: padded 2 (second / 60 % 60)
    ++ ':' :: padded 2 (second % 60 + leap) ++ printFraction (t.nanos % 1000000000) ++ zone

/-- Universal time as an offset. -/
def offsetZone : List Char := ['+', '0', '0', ':', '0', '0']

/-- Universal time as a letter. -/
def letterZone : List Char := ['Z']

end Timestamp

end ParamSql
