import Mathlib.Data.Nat.Log
import Mathlib.Tactic.Ring
import ParamSql.Number.Binary

/-!
# Rounding what needs no rounding

* `Binary.ofMagnitudeBits_fields` — a number is put together again from its sign and its fields.
* `Binary.floorLog2_scaled`, `Binary.roundHalfEven_mul` — the parts of rounding, where the result is
  exact.
* `Binary.convert_self` — a finite number converted to its own format stays as it is.
-/

set_option autoImplicit false

namespace ParamSql.Binary

/-! ## Exact rounding -/

theorem log2_mul_two_pow {m : Nat} (hm : m ≠ 0) (a : Nat) : (m * 2 ^ a).log2 = m.log2 + a := by
  induction a with
  | zero => simp
  | succ a ih =>
    have hpos : m * 2 ^ a ≠ 0 := Nat.mul_ne_zero hm (Nat.pow_pos (by decide)).ne'
    rw [Nat.pow_succ, ← Nat.mul_assoc, Nat.mul_comm (m * 2 ^ a) 2, Nat.log2_two_mul hpos, ih]
    rfl

/-- The largest power of two that is not above `m * 2 ^ q`. -/
theorem floorLog2_scaled {m : Nat} (hm : m ≠ 0) (q : Int) :
    floorLog2 (m * Nat.pow 2 q.toNat) (Nat.pow 2 (-q).toNat) = m.log2 + q := by
  have hlog : ((m * 2 ^ q.toNat).log2 : Int) - ((2 ^ (-q).toNat : Nat).log2 : Int) = m.log2 + q := by
    rw [log2_mul_two_pow hm, Nat.log2_two_pow]
    omega
  have hle : ¬m * 2 ^ q.toNat * 2 ^ (-(m.log2 + q : Int)).toNat <
      2 ^ (-q).toNat * 2 ^ (m.log2 + q : Int).toNat := by
    rw [Nat.not_lt, Nat.mul_assoc, ← Nat.pow_add, ← Nat.pow_add]
    calc 2 ^ ((-q).toNat + (m.log2 + q : Int).toNat)
        = 2 ^ (m.log2 + (q.toNat + (-(m.log2 + q : Int)).toNat)) := by congr 1; omega
      _ = 2 ^ m.log2 * 2 ^ (q.toNat + (-(m.log2 + q : Int)).toNat) := Nat.pow_add ..
      _ ≤ m * 2 ^ (q.toNat + (-(m.log2 + q : Int)).toNat) :=
        Nat.mul_le_mul_right _ (Nat.log2_self_le hm)
  simp only [floorLog2, Nat.pow_eq, hlog, if_neg hle]

/-- A ratio that is an integer needs no rounding. -/
theorem roundHalfEven_mul (m : Nat) {den : Nat} (hden : 0 < den) :
    roundHalfEven (m * den) den = m := by
  simp [roundHalfEven, Nat.mul_div_cancel m hden, hden.ne]

/-! ## Fields -/

variable {f : BinaryFormat} (x : Binary f)

theorem fractionField_lt : x.fractionField < 2 ^ f.fractionBits :=
  Nat.mod_lt _ (Nat.pow_pos (by decide))

/-- The bits of a number are its sign and its fields side by side. -/
theorem bits_eq : x.bits.toNat =
    (if x.isNegative then Nat.pow 2 (f.exponentBits + f.fractionBits) else 0)
      + (x.exponentField * Nat.pow 2 f.fractionBits + x.fractionField) := by
  simp only [isNegative, exponentField, fractionField, Nat.pow_eq, beq_iff_eq]
  have hbits : x.bits.toNat < 2 ^ (1 + f.exponentBits + f.fractionBits) := x.bits.isLt
  generalize x.bits.toNat = n at hbits ⊢
  have hlow := Nat.div_add_mod n (2 ^ f.fractionBits)
  have hhigh := Nat.div_add_mod (n / 2 ^ f.fractionBits) (2 ^ f.exponentBits)
  rw [Nat.div_div_eq_div_mul, ← Nat.pow_add, Nat.add_comm f.fractionBits] at hhigh
  have hsign : n / 2 ^ (f.exponentBits + f.fractionBits) < 2 := by
    apply Nat.div_lt_of_lt_mul
    rwa [Nat.add_assoc, Nat.pow_add, Nat.mul_comm] at hbits
  generalize n / 2 ^ (f.exponentBits + f.fractionBits) = sign at hhigh hsign ⊢
  generalize n / 2 ^ f.fractionBits % 2 ^ f.exponentBits = exponent at hhigh ⊢
  rw [Nat.pow_add]
  rw [← hhigh] at hlow
  calc n = 2 ^ f.fractionBits * (2 ^ f.exponentBits * sign + exponent) + n % 2 ^ f.fractionBits :=
        hlow.symm
    _ = sign * (2 ^ f.exponentBits * 2 ^ f.fractionBits)
          + (exponent * 2 ^ f.fractionBits + n % 2 ^ f.fractionBits) := by
        ring
    _ = _ := by
        obtain rfl | rfl : sign = 0 ∨ sign = 1 := by omega
        all_goals simp

/-- **A number is its sign and its fields.** -/
theorem ofMagnitudeBits_fields :
    ofMagnitudeBits f x.isNegative (x.exponentField * Nat.pow 2 f.fractionBits + x.fractionField) =
      x := by
  rw [ofMagnitudeBits, ← bits_eq, BitVec.ofNat_toNat, BitVec.setWidth_eq]

/-- Counted from the lowest power, a significand carries its leading bit into the exponent. -/
theorem significand_eq :
    (x.power - f.lowestPower).toNat * Nat.pow 2 f.fractionBits + x.significand =
      x.exponentField * Nat.pow 2 f.fractionBits + x.fractionField := by
  have hpower : (x.power - f.lowestPower).toNat = x.exponentField - 1 := by
    rw [power]
    omega
  rw [hpower, significand]
  split
  · rename_i hzero
    rw [hzero]
  · rename_i hne
    rw [← Nat.add_assoc, ← Nat.succ_mul]
    congr 2
    omega

/-- A significand fills its bits, or else the power is the lowest. -/
theorem power_eq (hm : x.significand ≠ 0) :
    max f.lowestPower (x.significand.log2 + x.power - f.fractionBits) = x.power := by
  have hfraction := x.fractionField_lt
  by_cases hzero : x.exponentField = 0
  · have hlow : x.significand.log2 < f.fractionBits := by
      rw [Nat.log2_lt hm, significand, if_pos hzero]
      exact hfraction
    rw [power, hzero]
    omega
  · have hfull : x.significand.log2 = f.fractionBits := by
      rw [Nat.log2_eq_iff hm, significand, if_neg hzero, Nat.pow_succ]
      simp only [Nat.pow_eq]
      omega
    rw [hfull, power]
    omega

/-- A number without a significand has no fields but its sign. -/
theorem fields_eq_zero (hm : x.significand = 0) :
    x.exponentField * Nat.pow 2 f.fractionBits + x.fractionField = 0 := by
  have hpos : 0 < Nat.pow 2 f.fractionBits := Nat.pow_pos (by decide)
  unfold significand at hm
  split at hm
  · rename_i hzero
    rw [hzero, hm, Nat.zero_mul]
  · omega

/-- The fields of a finite number stay below those of infinity. -/
theorem fields_le (h : x.isFinite = true) :
    x.exponentField * Nat.pow 2 f.fractionBits + x.fractionField ≤
      f.topExponent * Nat.pow 2 f.fractionBits := by
  have hne : x.exponentField ≠ f.topExponent := by simpa [isFinite] using h
  have hlt : x.exponentField < Nat.pow 2 f.exponentBits := Nat.mod_lt _ (Nat.pow_pos (by decide))
  have hnext : x.exponentField + 1 ≤ f.topExponent := by
    rw [BinaryFormat.topExponent] at hne ⊢
    omega
  calc x.exponentField * Nat.pow 2 f.fractionBits + x.fractionField
      ≤ x.exponentField * Nat.pow 2 f.fractionBits + Nat.pow 2 f.fractionBits :=
        Nat.add_le_add_left x.fractionField_lt.le _
    _ = (x.exponentField + 1) * Nat.pow 2 f.fractionBits := (Nat.succ_mul _ _).symm
    _ ≤ f.topExponent * Nat.pow 2 f.fractionBits := Nat.mul_le_mul_right _ hnext

/-- **A finite number converted to its own format stays as it is.** -/
theorem convert_self (h : x.isFinite = true) : x.convert f = x := by
  have hunit : 0 < Nat.pow 2 (-x.power).toNat * Nat.pow 2 x.power.toNat :=
    Nat.mul_pos (Nat.pow_pos (by decide)) (Nat.pow_pos (by decide))
  rw [convert, ofScaled, ofRatio]
  split
  · rename_i hnum
    have hm : x.significand = 0 :=
      (Nat.mul_eq_zero.mp hnum).resolve_right (Nat.pow_pos (by decide)).ne'
    rw [zero, ← x.fields_eq_zero hm, ofMagnitudeBits_fields]
  · rename_i hnum
    have hm : x.significand ≠ 0 := fun hm => hnum (by rw [hm, Nat.zero_mul])
    simp only [floorLog2_scaled hm, power_eq x hm]
    rw [Nat.mul_assoc, Nat.mul_comm (Nat.pow 2 x.power.toNat), roundHalfEven_mul _ hunit,
      significand_eq, Nat.min_eq_left (x.fields_le h), ofMagnitudeBits_fields]

end ParamSql.Binary
