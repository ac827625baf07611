/-!
# Hexadecimal digits

* `lowerHexDigit`, `upperHexDigit` — the digit of a number below 16.
* `lowerHex`, `upperHex` — a fixed count of digits, the most significant first.
* `hexValue?` — the number that a digit of either case stands for.
* `readHex?` — the number that a run of digits stands for.
-/

set_option autoImplicit false

namespace ParamSql.Text

/-- The hexadecimal digit of a number below 16, in lower case. -/
def lowerHexDigit (d : Nat) : Char :=
  if d < 10 then Char.ofNat (48 + d) else Char.ofNat (87 + d)

/-- The hexadecimal digit of a number below 16, in upper case. -/
def upperHexDigit (d : Nat) : Char :=
  if d < 10 then Char.ofNat (48 + d) else Char.ofNat (55 + d)

/-- The last `k` lower case hexadecimal digits of a number. -/
def lowerHex : Nat → Nat → List Char
  | 0, _ => []
  | k + 1, n => lowerHex k (n / 16) ++ [lowerHexDigit (n % 16)]

/-- The last `k` upper case hexadecimal digits of a number. -/
def upperHex : Nat → Nat → List Char
  | 0, _ => []
  | k + 1, n => upperHex k (n / 16) ++ [upperHexDigit (n % 16)]

/-- The number that a hexadecimal digit of either case stands for. -/
def hexValue? (c : Char) : Option Nat :=
  if '0' ≤ c ∧ c ≤ '9' then some (c.toNat - 48)
  else if 'a' ≤ c ∧ c ≤ 'f' then some (c.toNat - 87)
  else if 'A' ≤ c ∧ c ≤ 'F' then some (c.toNat - 55)
  else none

/-- The number that hexadecimal digits stand for, read on from `acc`. -/
def readHexFrom? (acc : Nat) : List Char → Option Nat
  | [] => some acc
  | c :: cs => (hexValue? c).bind fun d => readHexFrom? (16 * acc + d) cs

/-- The number that hexadecimal digits stand for, the most significant first; none if a character
is no digit. -/
def readHex? (cs : List Char) : Option Nat := readHexFrom? 0 cs

/-- The hexadecimal digits of a number in lower case, without leading zeros. -/
def shortLowerHex (n : Nat) : List Char := Nat.toDigits 16 n

theorem length_lowerHex (k n : Nat) : (lowerHex k n).length = k := by
  induction k generalizing n with
  | zero => rfl
  | succ k ih => simp [lowerHex, ih]

end ParamSql.Text
