/-!
# Binary floating point numbers

The interchange formats of IEEE 754 with a sign bit, exponent bits and fraction bits, held as their
bits.

* `Binary.significand`, `Binary.power` — a finite number has the magnitude
  `significand * 2 ^ power`.
* `Binary.ofRatio` — the number nearest to a ratio, a tie going to the even significand and what is
  too large to infinity.
* `Binary.eq` — the equality of IEEE 754: NaN equals nothing, the two zeros are equal. It is
  symmetric (`eq_comm`) and transitive (`eq_trans`).
-/

set_option autoImplicit false

namespace ParamSql

/-- The sizes of the fields of a binary format. -/
structure BinaryFormat where
  exponentBits : Nat
  fractionBits : Nat
  deriving DecidableEq, Repr

namespace BinaryFormat

/-- The format of 32 bits. -/
def single : BinaryFormat := ⟨8, 23⟩

/-- The format of 64 bits. -/
def double : BinaryFormat := ⟨11, 52⟩

/-- The number of bits: the sign, the exponent and the fraction. -/
def width (f : BinaryFormat) : Nat := 1 + f.exponentBits + f.fractionBits

/-- The exponent field of infinities and NaN. -/
def topExponent (f : BinaryFormat) : Nat := Nat.pow 2 f.exponentBits - 1

/-- The power of two that the last place of the smallest numbers counts. -/
def lowestPower (f : BinaryFormat) : Int :=
  2 - (Nat.pow 2 (f.exponentBits - 1) : Nat) - f.fractionBits

end BinaryFormat

/-- A number of a binary format. -/
structure Binary (f : BinaryFormat) where
  bits : BitVec f.width
  deriving DecidableEq

namespace Binary

variable {f g : BinaryFormat}

/-! ## Fields -/

/-- Whether the sign bit is set. -/
def isNegative (x : Binary f) : Bool :=
  x.bits.toNat / Nat.pow 2 (f.exponentBits + f.fractionBits) % 2 == 1

/-- The exponent as it is stored. -/
def exponentField (x : Binary f) : Nat :=
  x.bits.toNat / Nat.pow 2 f.fractionBits % Nat.pow 2 f.exponentBits

/-- The fraction as it is stored. -/
def fractionField (x : Binary f) : Nat := x.bits.toNat % Nat.pow 2 f.fractionBits

/-- Whether the number is neither an infinity nor NaN. -/
def isFinite (x : Binary f) : Bool := x.exponentField != f.topExponent

/-- Whether the number is not a number. -/
def isNaN (x : Binary f) : Bool := x.exponentField == f.topExponent && x.fractionField != 0

/-- Whether the number is a zero of either sign. -/
def isZero (x : Binary f) : Bool := x.exponentField == 0 && x.fractionField == 0

/-- The integer significand of a finite number. -/
def significand (x : Binary f) : Nat :=
  if x.exponentField = 0 then x.fractionField else Nat.pow 2 f.fractionBits + x.fractionField

/-- The power of two that the significand of a finite number counts. -/
def power (x : Binary f) : Int := f.lowestPower + (x.exponentField - 1 : Nat)

/-! ## Equality -/

/-- Equality of IEEE 754. -/
def eq (x y : Binary f) : Bool :=
  !x.isNaN && !y.isNaN && (x.bits == y.bits || (x.isZero && y.isZero))

theorem eq_comm (x y : Binary f) : x.eq y = y.eq x := by
  have h : (x.bits == y.bits) = (y.bits == x.bits) := Bool.beq_comm
  simp [eq, h, Bool.and_comm]

theorem eq_trans {x y z : Binary f} (hxy : x.eq y = true) (hyz : y.eq z = true) :
    x.eq z = true := by
  simp only [eq, Bool.and_eq_true, Bool.not_eq_true', Bool.or_eq_true, beq_iff_eq] at hxy hyz ⊢
  obtain ⟨⟨hx, _⟩, hxy⟩ := hxy
  obtain ⟨⟨_, hz⟩, hyz⟩ := hyz
  refine ⟨⟨hx, hz⟩, ?_⟩
  rcases hxy with hxy | ⟨zx, zy⟩
  · have : x = y := by cases x; cases y; simp_all
    subst this
    exact hyz
  · rcases hyz with hyz | ⟨_, zz⟩
    · have : y = z := by cases y; cases z; simp_all
      subst this
      exact Or.inr ⟨zx, zy⟩
    · exact Or.inr ⟨zx, zz⟩

/-! ## Rounding -/

/-- The number with a given sign and given bits below the sign. -/
def ofMagnitudeBits (f : BinaryFormat) (negative : Bool) (n : Nat) : Binary f :=
  ⟨BitVec.ofNat _ ((if negative then Nat.pow 2 (f.exponentBits + f.fractionBits) else 0) + n)⟩

/-- The zero of a sign. -/
def zero (f : BinaryFormat) (negative : Bool) : Binary f := ofMagnitudeBits f negative 0

/-- The integer nearest to a ratio, a tie going to the even one. -/
def roundHalfEven (num den : Nat) : Nat :=
  let q := num / den
  let r := num % den
  if 2 * r > den || (2 * r == den && q % 2 == 1) then q + 1 else q

/-- The largest `e` such that `2 ^ e` is not above a ratio of positive numbers. -/
def floorLog2 (num den : Nat) : Int :=
  let e : Int := (num.log2 : Int) - den.log2
  if num * Nat.pow 2 (-e).toNat < den * Nat.pow 2 e.toNat then e - 1 else e

/-- The number nearest to a ratio: a tie goes to the even significand, and a magnitude beyond the
largest number to infinity. -/
def ofRatio (f : BinaryFormat) (negative : Bool) (num den : Nat) : Binary f :=
  if num = 0 then zero f negative
  else
    let power := max f.lowestPower (floorLog2 num den - f.fractionBits)
    let significand := roundHalfEven (num * Nat.pow 2 (-power).toNat) (den * Nat.pow 2 power.toNat)
    -- A significand that reaches the next power of two carries into the exponent by itself.
    let bits := (power - f.lowestPower).toNat * Nat.pow 2 f.fractionBits + significand
    ofMagnitudeBits f negative (min bits (f.topExponent * Nat.pow 2 f.fractionBits))

/-- The number nearest to `m * 2 ^ q`. -/
def ofScaled (f : BinaryFormat) (negative : Bool) (m : Nat) (q : Int) : Binary f :=
  ofRatio f negative (m * Nat.pow 2 q.toNat) (Nat.pow 2 (-q).toNat)

/-- The number nearest to an integer. -/
def ofInt (f : BinaryFormat) (n : Int) : Binary f := ofRatio f (n < 0) n.natAbs 1

/-- The number of another format nearest to a finite number. -/
def convert (g : BinaryFormat) (x : Binary f) : Binary g :=
  ofScaled g x.isNegative x.significand x.power

/-- The product of two finite numbers, rounded once. -/
def mul (x y : Binary f) : Binary f :=
  ofScaled f (x.isNegative != y.isNegative) (x.significand * y.significand) (x.power + y.power)

/-- The quotient of two finite numbers, the second not zero, rounded once. -/
def div (x y : Binary f) : Binary f :=
  let q := x.power - y.power
  ofRatio f (x.isNegative != y.isNegative)
    (x.significand * Nat.pow 2 q.toNat) (y.significand * Nat.pow 2 (-q).toNat)

/-- The number of the other sign. -/
def neg (x : Binary f) : Binary f :=
  ofMagnitudeBits f (!x.isNegative) (x.bits.toNat % Nat.pow 2 (f.exponentBits + f.fractionBits))

end Binary

end ParamSql
