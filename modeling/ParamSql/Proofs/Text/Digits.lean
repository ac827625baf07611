import Mathlib.Data.List.TakeWhile
import Mathlib.Tactic.Ring
import ParamSql.Number.Numeral
import ParamSql.Text.Blank
import ParamSql.Text.Hex

/-!
# Digits read back

Decimal and hexadecimal digits stand for the number that they were written of, whatever digits stand
before them.

* `takeWhile_digits`, `dropWhile_digits` — where the digits at the start of a text end.
* `Numeral.readDigits_digitsOf`, `Numeral.readDigits_append` — reading decimal digits.
* `Text.readHexFrom?_lowerHex` — reading a fixed count of hexadecimal digits.
-/

set_option autoImplicit false

namespace ParamSql

/-! ## Decimal digits -/

/-- Characters that are digits. -/
def AllDigits (cs : List Char) : Prop := ∀ c ∈ cs, c.isDigit = true

/-- A text that no digit starts. -/
def NoDigitFirst (cs : List Char) : Prop := ∀ c ∈ cs.head?, c.isDigit = false

theorem allDigits_append {as bs : List Char} :
    AllDigits (as ++ bs) ↔ AllDigits as ∧ AllDigits bs := List.forall_mem_append

theorem allDigits_zeros (n : Nat) : AllDigits (List.replicate n '0') := by
  intro c hc
  rw [List.eq_of_mem_replicate hc]
  rfl

theorem allDigits_digitsOf (n : Nat) : AllDigits (digitsOf n) :=
  fun _ hc => Nat.isDigit_of_mem_toDigits (by decide) (by decide) hc

theorem digitsOf_ne_nil (n : Nat) : digitsOf n ≠ [] := Nat.toDigits_ne_nil

theorem noDigitFirst_nil : NoDigitFirst [] := nofun

theorem noDigitFirst_cons {c : Char} {cs : List Char} (h : c.isDigit = false) :
    NoDigitFirst (c :: cs) := by
  rintro _ ⟨⟩
  exact h

section Split

variable {digits rest : List Char}

theorem takeWhile_digits (hd : AllDigits digits) (hr : NoDigitFirst rest) :
    (digits ++ rest).takeWhile Char.isDigit = digits := by
  rw [List.takeWhile_append_of_pos hd]
  cases rest with
  | nil => simp
  | cons c rest => simp [hr c rfl]

theorem dropWhile_digits (hd : AllDigits digits) (hr : NoDigitFirst rest) :
    (digits ++ rest).dropWhile Char.isDigit = rest := by
  rw [List.dropWhile_append_of_pos hd]
  cases rest with
  | nil => rfl
  | cons c rest => simp [hr c rfl]

end Split

theorem Text.isBlank_of_isDigit {c : Char} (h : c.isDigit = true) : isBlank c = false := by
  have hbounds : 48 ≤ c.toNat ∧ c.toNat ≤ 57 := by simpa using Char.isDigit_iff_toNat.mp h
  simp [isBlank, inRanges, blankRanges]
  omega

/-- Only the digits of zero start with a zero. -/
theorem digitsOf_head_ne_zero {n : Nat} (hn : n ≠ 0) : (digitsOf n).head? ≠ some '0' := by
  induction n using Nat.strongRecOn with
  | ind n ih =>
    by_cases h : n < 10
    · rw [digitsOf, Nat.toDigits_of_lt_base h]
      simpa [Nat.digitChar_eq_zero] using hn
    · have hsmaller := ih (n / 10) (by omega) (by omega)
      rw [digitsOf, Nat.toDigits_of_base_le (by decide) (by omega), ← digitsOf, List.head?_append,
        Option.or_of_isSome (List.isSome_head?.mpr (digitsOf_ne_nil _))]
      exact hsmaller

namespace Numeral

theorem readDigits_eq (digits : List Char) : readDigits digits = Nat.ofDigitChars 10 digits 0 := rfl

@[simp] theorem readDigits_digitsOf (n : Nat) : readDigits (digitsOf n) = n :=
  Nat.ofDigitChars_ten_toDigits

theorem readDigits_append (as bs : List Char) :
    readDigits (as ++ bs) = 10 ^ bs.length * readDigits as + readDigits bs := by
  rw [readDigits_eq, Nat.ofDigitChars_append, Nat.ofDigitChars_eq_ofDigitChars_zero]
  rfl

@[simp] theorem readDigits_zeros (n : Nat) : readDigits (List.replicate n '0') = 0 := by
  induction n with
  | zero => rfl
  | succ n ih =>
    rw [List.replicate_succ', readDigits_append, ih]
    rfl

end Numeral

/-! ## Hexadecimal digits -/

namespace Text

/-- A character that is no hexadecimal digit is not among the digits of a number. -/
theorem notMem_lowerHex {c : Char} (hc : ∀ d < 16, lowerHexDigit d ≠ c) (k n : Nat) :
    c ∉ lowerHex k n := by
  induction k generalizing n with
  | zero => exact List.not_mem_nil
  | succ k ih =>
    rw [lowerHex, List.mem_append, List.mem_singleton]
    rintro (h | h)
    · exact ih _ h
    · exact hc _ (Nat.mod_lt _ (by decide)) h.symm

theorem hexValue?_lowerHexDigit : ∀ d < 16, hexValue? (lowerHexDigit d) = some d := by decide

theorem readHexFrom?_append (acc : Nat) (as bs : List Char) :
    readHexFrom? acc (as ++ bs) = (readHexFrom? acc as).bind fun n => readHexFrom? n bs := by
  induction as generalizing acc with
  | nil => rfl
  | cons a as ih =>
    rw [List.cons_append, readHexFrom?, readHexFrom?]
    cases hexValue? a with
    | none => rfl
    | some d => exact ih (16 * acc + d)

/-- **A fixed count of hexadecimal digits stands for the number modulo a power of 16**, counted on
from the number that was read before them. -/
theorem readHexFrom?_lowerHex (acc k n : Nat) :
    readHexFrom? acc (lowerHex k n) = some (16 ^ k * acc + n % 16 ^ k) := by
  induction k generalizing n with
  | zero => simp [lowerHex, readHexFrom?, Nat.mod_one]
  | succ k ih =>
    rw [lowerHex, readHexFrom?_append, ih, Option.bind_some, readHexFrom?,
      hexValue?_lowerHexDigit _ (Nat.mod_lt _ (by decide)), Option.bind_some, readHexFrom?,
      Nat.pow_succ, Nat.mul_comm (16 ^ k) 16, Nat.mod_mul, Nat.mul_add, Nat.mul_assoc]
    congr 1
    omega

theorem readHex?_lowerHex (k n : Nat) : readHex? (lowerHex k n) = some (n % 16 ^ k) := by
  rw [readHex?, readHexFrom?_lowerHex]
  simp

end Text

end ParamSql
