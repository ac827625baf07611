import ParamSql.Proofs.Text.Digits
import ParamSql.Uuid

/-!
# Identifiers read back

* `Uuid.ofHyphenated?_groups` — five groups of characters with hyphens between are read as the digits
  that they are together.
* `Uuid.ofText?_print` — the text of an identifier is read as the identifier.
-/

set_option autoImplicit false

namespace ParamSql.Uuid

open ParamSql.Text

/-- Five groups of characters with hyphens between are read as the digits that they are together. -/
theorem ofHyphenated?_groups {a b c d e : List Char} (ha : a.length = 8) (hb : b.length = 4)
    (hc : c.length = 4) (hd : d.length = 4) (he : e.length = 12)
    (h : '-' ∉ a ++ b ++ c ++ d ++ e) :
    ofHyphenated? (a ++ '-' :: b ++ '-' :: c ++ '-' :: d ++ '-' :: e) =
      ofDigits? (a ++ b ++ c ++ d ++ e) := by
  simp only [List.mem_append, not_or] at h
  have hkeep : ∀ cs : List Char, '-' ∉ cs → cs.filter (· != '-') = cs := by
    intro cs hcs
    rw [List.filter_eq_self]
    intro x hx
    simpa using fun hyphen : x = '-' => hcs (hyphen ▸ hx)
  have hfilter : (a ++ '-' :: b ++ '-' :: c ++ '-' :: d ++ '-' :: e).filter (· != '-') =
      a ++ b ++ c ++ d ++ e := by
    simp [List.filter_append, hkeep, h]
  rw [ofHyphenated?, hfilter, if_pos]
  simp [ha, hb, hc, hd, he]

/-- Digits that go on with a number shifted by as many places give the number shifted less. -/
theorem shift_digits (n a k : Nat) :
    16 ^ k * (n >>> (a + 4 * k)) + (n >>> a) % 16 ^ k = n >>> a := by
  have hpow : (2 : Nat) ^ (4 * k) = 16 ^ k := by rw [Nat.pow_mul]
  rw [Nat.shiftRight_add, Nat.shiftRight_eq_div_pow (n >>> a), hpow]
  exact Nat.div_add_mod _ _

/-- **The text of an identifier is read as the identifier.** -/
theorem ofText?_print (u : Uuid) : ofText? u.print = some u := by
  have hlength : u.print.length = 36 := by simp [print, length_lowerHex]
  have hgroups := ofHyphenated?_groups (length_lowerHex 8 (u.bits.toNat >>> 96))
    (length_lowerHex 4 (u.bits.toNat >>> 80)) (length_lowerHex 4 (u.bits.toNat >>> 64))
    (length_lowerHex 4 (u.bits.toNat >>> 48)) (length_lowerHex 12 u.bits.toNat)
    (by simp [notMem_lowerHex (by decide : ∀ d < 16, lowerHexDigit d ≠ '-')])
  rw [ofText?, if_neg (by omega), if_pos hlength, print, hgroups, ofDigits?,
    if_pos (by simp [length_lowerHex]), readHex?]
  simp only [readHexFrom?_append, readHexFrom?_lowerHex, Option.bind_some, Nat.mul_zero,
    Nat.zero_add]
  have hn : u.bits.toNat < 2 ^ 128 := u.bits.isLt
  generalize hbits : u.bits.toNat = n at hn ⊢
  have h96 : (n >>> 96) % 16 ^ 8 = n >>> 96 := by
    rw [Nat.shiftRight_eq_div_pow]
    omega
  have h80 : 16 ^ 4 * (n >>> 96) + (n >>> 80) % 16 ^ 4 = n >>> 80 := shift_digits n 80 4
  have h64 : 16 ^ 4 * (n >>> 80) + (n >>> 64) % 16 ^ 4 = n >>> 64 := shift_digits n 64 4
  have h48 : 16 ^ 4 * (n >>> 64) + (n >>> 48) % 16 ^ 4 = n >>> 48 := shift_digits n 48 4
  have h0 : 16 ^ 12 * (n >>> 48) + n % 16 ^ 12 = n := shift_digits n 0 12
  rw [h96, h80, h64, h48, h0, ← hbits]
  simp

end ParamSql.Uuid
