import ParamSql.Number.Shortest

/-!
# Decimal numerals

A numeral as it is written: a sign, digits before and after a point, a power of ten.

* `Numeral.print` — its characters.
* `Numeral.ofBinary` — the numeral of a finite binary number under a `Numeral.Style`.
* `Numeral.toInt?`, `Numeral.toDouble?` — the number that a numeral is read as.
* `Binary.positional` — a number of any kind without a power of ten.
-/

set_option autoImplicit false

namespace ParamSql

/-- A numeral. `whole` and `fraction` hold digits, `fraction` is empty when there is no point. -/
structure Numeral where
  negative : Bool
  whole : List Char
  fraction : List Char
  exponent : Option Int
  deriving DecidableEq, Repr

/-- The digits of a natural number. -/
def digitsOf (n : Nat) : List Char := Nat.toDigits 10 n

/-- The digits of an integer after its sign, which is always shown. -/
def signedDigits (n : Int) : List Char :=
  (if n < 0 then '-' else '+') :: digitsOf n.natAbs

namespace Numeral

/-- The characters of a numeral. -/
def print (n : Numeral) : List Char :=
  (if n.negative then ['-'] else []) ++ n.whole
    ++ (if n.fraction.isEmpty then [] else '.' :: n.fraction)
    ++ (match n.exponent with
      | none => []
      | some e => 'e' :: signedDigits e)

/-- The numeral of an integer. -/
def ofInt (n : Int) : Numeral := ⟨n < 0, digitsOf n.natAbs, [], none⟩

/-! ## Writing binary numbers -/

/-- Where a digit string with its last digit counting `10 ^ k` has its point: the digits before the
point and those after it. -/
def placePoint (digits : List Char) (k : Int) : List Char × List Char :=
  if 0 ≤ k then (digits ++ List.replicate k.toNat '0', [])
  else
    let places := (-k).toNat
    if places < digits.length then digits.splitAt (digits.length - places)
    else (['0'], List.replicate (places - digits.length) '0' ++ digits)

/-- How binary numbers are written. A number whose leading digit counts `10 ^ e` is written without
a power of ten when `least ≤ e` and `e < bound`. -/
structure Style where
  tie : TieRule
  least : Int
  bound : Int

/-- Numbers of 64 bits in a JSON text are positional from `0.00001` up to below `10 ^ 16`; a tie
between two shortest decimals goes to the even digit. -/
def jsonDouble : Style := ⟨.toEven, -5, 16⟩

/-- Numbers of 32 bits in a JSON text are positional from `0.000001` up to below `10 ^ 13`. -/
def jsonSingle : Style := ⟨.toEven, -6, 13⟩

/-- The numeral of a finite binary number. A positional one always has a digit after the point. -/
def ofBinary {f : BinaryFormat} (style : Style) (x : Binary f) : Numeral :=
  let (d, k) := x.shortest style.tie
  let digits := digitsOf d
  let leading := k + (digits.length - 1 : Nat)
  if style.least ≤ leading && leading < style.bound then
    let (whole, fraction) := placePoint digits k
    ⟨x.isNegative, whole, if fraction.isEmpty then ['0'] else fraction, none⟩
  else ⟨x.isNegative, digits.take 1, digits.drop 1, some leading⟩

/-! ## Reading -/

/-- Whether a numeral is written as an integer. -/
def isInteger (n : Numeral) : Bool := n.fraction.isEmpty && n.exponent.isNone

/-- The number that digits stand for. -/
def readDigits (digits : List Char) : Nat :=
  digits.foldl (fun acc c => 10 * acc + (c.toNat - 48)) 0

/-- The integer that a numeral is read as: it is written as one and fits 64 bits, with a sign if it
is negative. Minus zero is no integer. -/
def toInt? (n : Numeral) : Option Int :=
  if n.isInteger then
    let m := readDigits n.whole
    if n.negative then if 0 < m && 2 * m ≤ UInt64.size then some (-m) else none
    else if m < UInt64.size then some m else none
  else none

/-- Takes digits into a significand for as long as it fits 64 bits, and gives the digits that are
left. -/
def takeDigits (acc : Nat) : List Char → Nat × List Char
  | [] => (acc, [])
  | c :: cs =>
    let next := 10 * acc + (c.toNat - 48)
    if next < UInt64.size then takeDigits next cs else (acc, c :: cs)

/-- The double next to `10 ^ e`. -/
def powerOfTen (e : Nat) : Binary .double := Binary.ofRatio .double false (Nat.pow 10 e) 1

/-- A number below `2 ^ 64` divided by `10 ^ e`. Where no double is near that power of ten, the
division takes two steps, each of them rounded; beyond `10 ^ 616` nothing but zero is left. -/
def divideByPower (x : Binary .double) (e : Nat) : Binary .double :=
  if e ≤ 308 then x.div (powerOfTen e)
  else (x.div (powerOfTen 308)).div (powerOfTen (min (e - 308) 308))

/-- The largest exponent that is read; a larger one overflows or underflows. -/
def exponentLimit : Nat := Int32.maxValue.toInt.toNat

/-- The double `significand * 10 ^ e`, with a rounding of the significand and one of the product or
quotient; none if it is too large. -/
def scale? (significand : Nat) (e : Int) : Option (Binary .double) :=
  let x := Binary.ofRatio .double false significand 1
  if e < 0 then some (divideByPower x (-e).toNat)
  else if e ≤ 308 then
    let y := x.mul (powerOfTen e.toNat)
    if y.isFinite then some y else none
  else if x.isZero then some x else none

/-- The double that a numeral is read as. The significand takes the digits that fit 64 bits; a
further digit before the point counts as a power of ten, a further one after it is dropped. None if
the numeral is out of range. -/
def toDouble? (n : Numeral) : Option (Binary .double) :=
  let (whole, rest) := takeDigits 0 n.whole
  let (significand, unread) := takeDigits whole n.fraction
  let e : Int := rest.length - (n.fraction.length - unread.length : Nat)
  let magnitude : Option (Binary .double) :=
    match n.exponent with
    | none => scale? significand e
    | some k =>
      if k.natAbs ≤ exponentLimit then
        scale? significand (max Int32.minValue.toInt (min Int32.maxValue.toInt (e + k)))
      else if k < 0 || significand = 0 then some (Binary.zero .double false)
      else none
  magnitude.map fun x => if n.negative then x.neg else x

end Numeral

/-! ## Numbers of any kind -/

/-- The text of a binary number without a power of ten: its shortest digits, a tie going away from
zero, and no point after a whole number. -/
def Binary.positional {f : BinaryFormat} (x : Binary f) : List Char :=
  if x.isNaN then ['N', 'a', 'N']
  else
    let sign := if x.isNegative then ['-'] else []
    if !x.isFinite then sign ++ ['i', 'n', 'f']
    else
      let (d, k) := x.shortest .away
      let (whole, fraction) := Numeral.placePoint (digitsOf d) k
      sign ++ whole ++ (if fraction.isEmpty then [] else '.' :: fraction)

end ParamSql
