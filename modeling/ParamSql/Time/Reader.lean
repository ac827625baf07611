import ParamSql.Text.Blank
import ParamSql.Time.Timestamp

/-!
# Reading points in time

A timestamp is read from a date and time of RFC 3339 that may be written loosely: numbers need not
have all their digits, blanks may stand before numbers and separators, a year may have a sign, and
the zone may be spelled UTC.

* `Timestamp.ofText?` — the point in time of a text.
-/

set_option autoImplicit false

namespace ParamSql.Timestamp

open ParamSql.Text

/-- A reader takes something from the start of a text and leaves the rest. -/
abbrev Reader (α : Type) := List Char → Option (α × List Char)

/-- A number of one digit at least and `most` at most. -/
def number (most : Nat) : Reader Nat := fun cs =>
  let digits := (cs.take most).takeWhile Char.isDigit
  if digits.isEmpty then none
  else some (Numeral.readDigits digits, cs.drop digits.length)

/-- A number of two digits at most, within bounds and after blanks. -/
def part (least most : Nat) : Reader Nat := fun cs => do
  let (n, rest) ← number 2 (trimStart cs)
  if least ≤ n ∧ n ≤ most then some (n, rest) else none

/-- A separator, after blanks. -/
def separator (c : Char) (cs : List Char) : Option (List Char) :=
  match trimStart cs with
  | [] => none
  | d :: rest => if d = c then some rest else none

/-- A year: four digits at most, or any number of them after a sign. -/
def year : Reader Int := fun cs =>
  match trimStart cs with
  | '-' :: rest => (number rest.length rest).map fun (n, more) => (-(n : Int), more)
  | '+' :: rest => (number rest.length rest).map fun (n, more) => ((n : Int), more)
  | rest => (number 4 rest).map fun (n, more) => ((n : Int), more)

/-- The nanoseconds of a fraction of a second. Nine digits count, further ones are passed over; no
point is no fraction. -/
def fraction : Reader Nat := fun cs =>
  match cs with
  | '.' :: rest =>
    let digits := (rest.take 9).takeWhile Char.isDigit
    if digits.isEmpty then none
    else some (Numeral.readDigits digits * Nat.pow 10 (9 - digits.length),
      rest.dropWhile Char.isDigit)
  | _ => some (0, cs)

/-- Two digits. -/
def twoDigits : Reader Nat := fun cs =>
  match cs with
  | a :: b :: rest =>
    if a.isDigit && b.isDigit then some (Numeral.readDigits [a, b], rest) else none
  | _ => none

/-- The minutes of an offset that is given in hours and minutes, with colons and blanks between. -/
def offsetMinutes (cs : List Char) : Option (Nat × List Char) := do
  let (hours, rest) ← twoDigits cs
  let (minutes, rest) ← twoDigits (rest.dropWhile fun c => c == ':' || isBlank c)
  if minutes < 60 then some (60 * hours + minutes, rest) else none

/-- The minutes by which a zone is ahead of universal time: a letter Z, the word UTC or an
offset. -/
def zone : Reader Int := fun cs =>
  if (cs.take 3).map Char.toUpper = ['U', 'T', 'C'] then some (0, cs.drop 3)
  else
    match cs with
    | 'Z' :: rest => some (0, rest)
    | 'z' :: rest => some (0, rest)
    | '+' :: rest => (offsetMinutes rest).map fun (n, more) => ((n : Int), more)
    | '-' :: rest => (offsetMinutes rest).map fun (n, more) => (-(n : Int), more)
    | '\u2212' :: rest => (offsetMinutes rest).map fun (n, more) => (-(n : Int), more)
    | _ => none

/-- The point in time of a text. A second numbered 60 prolongs the one before it. -/
def ofText? (cs : List Char) : Option Timestamp := do
  let (year, cs) ← year cs
  let cs ← separator '-' cs
  let (month, cs) ← part 1 12 cs
  let cs ← separator '-' cs
  let (day, cs) ← part 1 31 cs
  let cs ← match cs with
    | c :: rest => if c = 't' ∨ c = 'T' ∨ c = ' ' then some rest else none
    | [] => none
  let (hour, cs) ← part 0 23 cs
  let cs ← separator ':' cs
  let (minute, cs) ← part 0 59 cs
  let cs ← separator ':' cs
  let (second, cs) ← part 0 60 cs
  let (nanos, cs) ← fraction cs
  let (offset, cs) ← zone (trimStart cs)
  let date : Date := ⟨year, month, day⟩
  let ofDay : Nat := 3600 * hour + 60 * minute + min second 59
  let seconds := date.toDays * secondsPerDay + ofDay - 60 * offset
  let utc := Date.ofDays (seconds / secondsPerDay)
  if date.isValid && offset.natAbs < 1440 && utc.isValid && (trimStart cs).isEmpty then
    some ⟨seconds, if second = 60 then nanos + 1000000000 else nanos⟩
  else none

end ParamSql.Timestamp
