import ParamSql.Number.Decimal
import ParamSql.Proofs.Number.Writing

/-!
# Decimals read back

A decimal is written with all of its places, and reading counts them again. Only the sign of a zero
is lost, which is no part of the number.

* `Scan.read?_whole`, `Scan.read?_fraction` — what reading digits before and behind the point does.
* `ofText?_print` — the text of a decimal is read as the decimal, a zero without its sign.
* `eq_dropZeroSign` — this is the same number.
-/

set_option autoImplicit false

namespace ParamSql.Decimal

open Numeral

/-! ## Digits -/

theorem le_ofDigitChars (digits : List Char) (m : Nat) : m ≤ Nat.ofDigitChars 10 digits m := by
  rw [Nat.ofDigitChars_eq_ofDigitChars_zero]
  exact (Nat.le_mul_of_pos_left m (Nat.pow_pos (by decide))).trans (Nat.le_add_right _ _)

theorem ofDigitChars_cons (c : Char) (cs : List Char) (m : Nat) :
    Nat.ofDigitChars 10 (c :: cs) m = Nat.ofDigitChars 10 cs (10 * m + (c.toNat - 48)) := by
  rw [Nat.ofDigitChars_cons, show '0'.toNat = 48 from rfl]

/-- Digits before the point are counted into the magnitude, as long as it fits. -/
theorem Scan.read?_whole (negative : Bool) (rest : List Char) :
    ∀ (digits : List Char) (digit : Bool) (m : Nat), AllDigits digits →
      Nat.ofDigitChars 10 digits m < magnitudeBound →
        Scan.read? negative ⟨false, digit, m, 0⟩ (digits ++ rest) =
          Scan.read? negative
            ⟨false, digit || !digits.isEmpty, Nat.ofDigitChars 10 digits m, 0⟩ rest
  | [], digit, m, _, _ => by simp [Nat.ofDigitChars]
  | c :: cs, digit, m, hd, hm => by
    rw [AllDigits, List.forall_mem_cons] at hd
    rw [ofDigitChars_cons] at hm ⊢
    have hfits : 10 * m + (c.toNat - 48) < magnitudeBound :=
      (le_ofDigitChars cs _).trans_lt hm
    have ih := read?_whole negative rest cs true _ hd.2 hm
    rw [List.cons_append, Scan.read?, if_neg (by simp), if_pos hd.1]
    simp only [Bool.false_eq_true, if_false]
    rw [if_pos hfits, ih]
    simp

/-- Digits behind the point are counted into the magnitude and the places, as long as there are
places. -/
theorem Scan.read?_fraction (negative : Bool) :
    ∀ (digits : List Char) (m scale : Nat), AllDigits digits →
      Nat.ofDigitChars 10 digits m < magnitudeBound → scale + digits.length ≤ maxScale →
        Scan.read? negative ⟨true, true, m, scale⟩ digits =
          of? negative (Nat.ofDigitChars 10 digits m) (scale + digits.length)
  | [], m, scale, _, _, _ => rfl
  | c :: cs, m, scale, hd, hm, hscale => by
    rw [AllDigits, List.forall_mem_cons] at hd
    rw [ofDigitChars_cons] at hm ⊢
    rw [List.length_cons] at hscale ⊢
    have hfits : 10 * m + (c.toNat - 48) < magnitudeBound :=
      (le_ofDigitChars cs _).trans_lt hm
    have ih := read?_fraction negative cs _ (scale + 1) hd.2 hm (by omega)
    have hplaces : (true && decide (maxScale ≤ scale)) = false := by
      simp
      omega
    rw [Scan.read?, if_neg (by simp [hplaces]), if_pos hd.1]
    simp only [if_true]
    rw [if_pos hfits, ih]
    congr 1
    omega

/-- The decimal, a zero without its sign. -/
def dropZeroSign (d : Decimal) : Decimal :=
  { d with isNegative := d.isNegative && d.magnitude.toNat != 0 }

/-- The sign of a zero is no part of the number. -/
theorem eq_dropZeroSign (d : Decimal) : d.dropZeroSign.eq d = true := by
  have hmantissa : d.dropZeroSign.mantissa = d.mantissa := by
    unfold mantissa dropZeroSign
    by_cases hzero : d.magnitude.toNat = 0
    · simp [hzero]
    · simp [hzero]
  rw [eq, hmantissa]
  exact beq_self_eq_true _

/-- The digits of a decimal after its sign are read as its magnitude and places. -/
theorem read?_digits (negative : Bool) {whole fraction : List Char} (hwhole : AllDigits whole)
    (hne : whole ≠ []) (hfraction : AllDigits fraction)
    (hbound : readDigits (whole ++ fraction) < magnitudeBound) (hplaces : fraction.length ≤ maxScale) :
    Scan.read? negative ⟨false, false, 0, 0⟩
        (whole ++ if fraction.isEmpty then [] else '.' :: fraction) =
      of? negative (readDigits (whole ++ fraction)) fraction.length := by
  rw [readDigits_eq, Nat.ofDigitChars_append] at hbound ⊢
  rw [Scan.read?_whole negative _ whole false 0 hwhole ((le_ofDigitChars _ _).trans_lt hbound)]
  have hdigit : (!whole.isEmpty) = true := by simp [hne]
  cases fraction with
  | nil => simp [Scan.read?, Scan.finish?, hdigit]
  | cons c cs =>
    have hread := Scan.read?_fraction negative (c :: cs) _ 0 hfraction hbound (by omega)
    rw [Nat.zero_add] at hread
    rw [← hread]
    simp [Scan.read?, hdigit]

/-- **The text of a decimal is read as the decimal**, a zero without its sign. -/
theorem ofText?_print (d : Decimal) : ofText? d.print = some d.dropZeroSign := by
  obtain ⟨hwhole, hfraction, hne, hlength, hread⟩ := placePoint_spec
    (allDigits_digitsOf d.magnitude.toNat) (digitsOf_ne_nil _) (-((d.scale : Nat) : Int))
  have hscale : d.scale.val < 29 := d.scale.isLt
  have hbound : d.magnitude.toNat < magnitudeBound := d.magnitude.isLt
  rw [readDigits_digitsOf, Int.toNat_of_nonpos (by omega), Nat.pow_zero, Nat.one_mul] at hread
  rw [Int.neg_neg, Int.toNat_natCast] at hlength
  have hdigits := read?_digits d.isNegative hwhole hne hfraction
    (by rw [hread]; exact hbound) (by rw [hlength, maxScale]; omega)
  rw [hread, hlength] at hdigits
  have hpositional : ofPositional? d.print = of? d.isNegative d.magnitude.toNat d.scale := by
    rw [← hdigits, print]
    cases hsign : d.isNegative with
    | true => simp [ofPositional?]
    | false =>
      -- the first character is a digit and no sign
      obtain ⟨c, cs, hcons⟩ := List.exists_cons_of_ne_nil hne
      have hc : c.isDigit = true := hwhole c (by simp [hcons])
      have hsigns : c ≠ '-' ∧ c ≠ '+' := by
        constructor <;> (rintro rfl; cases hc)
      simp [ofPositional?, hcons, hsigns]
  rw [ofText?, hpositional, of?, dif_pos hscale, if_pos hbound]
  simp [dropZeroSign]

end ParamSql.Decimal
