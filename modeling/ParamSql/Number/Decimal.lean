import ParamSql.Number.Numeral

/-!
# Decimal numbers

Exact decimals of at most 96 bits and 28 places, with a sign.

* `Decimal.of?` — the decimal of a sign, a magnitude and a count of places.
* `Decimal.eq` — equality of the numbers, whatever the count of places; it is symmetric and
  transitive (`eq_comm`, `eq_trans`).
* `Decimal.print` — all places are shown.
* `Decimal.ofText?` — a decimal read from text: positional (`ofPositional?`), else with a power of
  ten (`ofScientific?`).
-/

set_option autoImplicit false

namespace ParamSql

/-- The number `magnitude / 10 ^ scale`, or its opposite if it is negative. A zero is negative only
where rounding made it of a negative number. -/
structure Decimal where
  isNegative : Bool
  magnitude : BitVec 96
  scale : Fin 29
  deriving DecidableEq, Repr

namespace Decimal

/-- Magnitudes stay below this number. -/
def magnitudeBound : Nat := Nat.pow 2 96

/-- The largest count of places. -/
def maxScale : Nat := 28

/-- The decimal of a sign, a magnitude and a count of places, if both are small enough. A zero drops
its sign. -/
def of? (negative : Bool) (magnitude scale : Nat) : Option Decimal :=
  if h : scale < 29 then
    if magnitude < magnitudeBound then
      some ⟨negative && magnitude != 0, BitVec.ofNat 96 magnitude, ⟨scale, h⟩⟩
    else none
  else none

/-- The decimal of an integer, if it is small enough. -/
def ofInt? (n : Int) : Option Decimal := of? (n < 0) n.natAbs 0

/-- The magnitude with its sign. -/
def mantissa (d : Decimal) : Int :=
  if d.isNegative then -(d.magnitude.toNat : Int) else d.magnitude.toNat

/-- The number of last places that make up one. -/
def unit (d : Decimal) : Nat := Nat.pow 10 d.scale

theorem unit_pos (d : Decimal) : 0 < d.unit := Nat.pow_pos (by decide)

/-! ## Equality -/

/-- Equality of the numbers: 1.0 equals 1.00. -/
def eq (a b : Decimal) : Bool := a.mantissa * b.unit == b.mantissa * a.unit

theorem eq_comm (a b : Decimal) : a.eq b = b.eq a := by
  unfold eq
  exact Bool.beq_comm

theorem eq_trans {a b c : Decimal} (hab : a.eq b = true) (hbc : b.eq c = true) :
    a.eq c = true := by
  simp only [eq, beq_iff_eq] at *
  have hpos : (b.unit : Int) ≠ 0 := by
    have := b.unit_pos
    omega
  apply Int.eq_of_mul_eq_mul_right hpos
  calc a.mantissa * c.unit * b.unit
      = a.mantissa * b.unit * c.unit := by
        rw [Int.mul_assoc, Int.mul_comm c.unit, ← Int.mul_assoc]
    _ = b.mantissa * c.unit * a.unit := by
        rw [hab, Int.mul_assoc, Int.mul_comm a.unit, ← Int.mul_assoc]
    _ = c.mantissa * a.unit * b.unit := by
        rw [hbc, Int.mul_assoc, Int.mul_comm b.unit, ← Int.mul_assoc]

/-! ## Text -/

/-- The characters of a decimal, with all its places. -/
def print (d : Decimal) : List Char :=
  let digits := digitsOf d.magnitude.toNat
  let (whole, fraction) := Numeral.placePoint digits (-((d.scale : Nat) : Int))
  (if d.isNegative then ['-'] else []) ++ whole
    ++ (if fraction.isEmpty then [] else '.' :: fraction)

/-- What is known of a positional decimal part way through its text. -/
structure Scan where
  point : Bool
  digit : Bool
  magnitude : Nat
  scale : Nat

/-- The decimal as it has been read; none without a digit. -/
def Scan.finish? (negative : Bool) (s : Scan) : Option Decimal :=
  if s.digit then of? negative s.magnitude s.scale else none

/-- The decimal one unit of its last place further from zero. A magnitude that becomes too large is
rounded to one place less. -/
def Scan.roundUp? (negative : Bool) (s : Scan) : Option Decimal :=
  if s.magnitude + 1 < magnitudeBound then of? negative (s.magnitude + 1) s.scale
  else if s.scale = 0 then none
  else of? negative ((s.magnitude + 5) / 10) (s.scale - 1)

/-- Ends a decimal where there is no place left. What follows must be digits and underscores, and the
first digit of it rounds: up from five on. -/
def Scan.round? (negative : Bool) (s : Scan) (rest : List Char) : Option Decimal :=
  if rest.all fun c => c.isDigit || c == '_' then
    match rest.find? Char.isDigit with
    | none => s.finish? negative
    | some c => if c.toNat < 53 then s.finish? negative else s.roundUp? negative
  else none

/-- Reads the digits of a positional decimal. -/
def Scan.read? (negative : Bool) (s : Scan) : List Char → Option Decimal
  | [] => s.finish? negative
  | c :: cs =>
    if s.point && maxScale ≤ s.scale then s.round? negative (c :: cs)
    else if c.isDigit then
      let magnitude := 10 * s.magnitude + (c.toNat - 48)
      if magnitude < magnitudeBound then
        Scan.read? negative ⟨s.point, true, magnitude, if s.point then s.scale + 1 else 0⟩ cs
      else if s.point then s.round? negative (c :: cs)
      else none
    else if c == '.' && !s.point then Scan.read? negative { s with point := true } cs
    else if c == '_' && s.digit then Scan.read? negative s cs
    else none

/-- A decimal written without a power of ten: a sign, digits, a point among them; underscores may
stand after the first digit. Digits before the point must fit, those after it are rounded. -/
def ofPositional? (cs : List Char) : Option Decimal :=
  let start : Scan := ⟨false, false, 0, 0⟩
  match cs with
  | '-' :: rest => start.read? true rest
  | '+' :: rest => start.read? false rest
  | _ => start.read? false cs

/-- The number that digits stand for, after an optional plus sign; none from `2 ^ 32` on. -/
def readExponent? (cs : List Char) : Option Nat :=
  let digits := match cs with
    | '+' :: rest => rest
    | _ => cs
  if !digits.isEmpty && digits.all Char.isDigit then
    let n := Numeral.readDigits digits
    if n < UInt32.size then some n else none
  else none

/-- Moves the point of a decimal to the left. Places that there are none for are rounded off, a half
away from zero; what is left keeps its sign. -/
def shiftLeft? (d : Decimal) (e : Nat) : Option Decimal :=
  if maxScale < e then none
  else if h : d.scale + e < 29 then some { d with scale := ⟨d.scale + e, h⟩ }
  else
    let dropped := Nat.pow 10 (d.scale + e - maxScale)
    let rounded := (d.magnitude.toNat + dropped / 2) / dropped
    some { d with magnitude := BitVec.ofNat 96 rounded, scale := ⟨maxScale, by decide⟩ }

/-- Moves the point of a decimal to the right. -/
def shiftRight? (d : Decimal) (e : Nat) : Option Decimal :=
  if e ≤ d.scale then some { d with scale := ⟨d.scale - e, by omega⟩ }
  else if maxScale < e then none
  else of? d.isNegative (d.magnitude.toNat * Nat.pow 10 (e - d.scale)) 0

/-- A decimal written with a power of ten after a letter E. -/
def ofScientific? (cs : List Char) : Option Decimal :=
  let isMark (c : Char) : Bool := c == 'e' || c == 'E'
  match cs.dropWhile (!isMark ·) with
  | [] => none
  | _ :: exponent =>
    (ofPositional? (cs.takeWhile (!isMark ·))).bind fun d =>
      match exponent with
      | '-' :: digits => (readExponent? digits).bind d.shiftLeft?
      | _ => (readExponent? exponent).bind d.shiftRight?

/-- A decimal read from text. -/
def ofText? (cs : List Char) : Option Decimal :=
  (ofPositional? cs).or (ofScientific? cs)

end Decimal

end ParamSql
