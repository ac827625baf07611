import ParamSql.Text.Hex

/-!
# Universally unique identifiers

* `Uuid.print` — the hyphenated form, in lower case.
* `Uuid.ofText?` — reads the plain, the hyphenated, the braced and the URN form.
-/

set_option autoImplicit false

namespace ParamSql

/-- A universally unique identifier: a number of 128 bits. -/
structure Uuid where
  bits : BitVec 128
  deriving DecidableEq, Repr

namespace Uuid

open ParamSql.Text

/-- The characters of an identifier: groups of 8, 4, 4, 4 and 12 digits. -/
def print (u : Uuid) : List Char :=
  let n := u.bits.toNat
  lowerHex 8 (n >>> 96) ++ '-' :: lowerHex 4 (n >>> 80) ++ '-' :: lowerHex 4 (n >>> 64)
    ++ '-' :: lowerHex 4 (n >>> 48) ++ '-' :: lowerHex 12 n

/-- The identifier of 32 digits. -/
def ofDigits? (cs : List Char) : Option Uuid :=
  if cs.length = 32 then (readHex? cs).map fun n => ⟨BitVec.ofNat 128 n⟩ else none

/-- The identifier of five groups of digits with hyphens between. -/
def ofHyphenated? (cs : List Char) : Option Uuid :=
  if cs.length = 36 && cs[8]? == some '-' && cs[13]? == some '-' && cs[18]? == some '-'
      && cs[23]? == some '-' then
    ofDigits? (cs.filter (· != '-'))
  else none

/-- The start of the URN form. -/
def urn : List Char := ['u', 'r', 'n', ':', 'u', 'u', 'i', 'd', ':']

/-- The identifier that a text in one of the four forms stands for. -/
def ofText? (cs : List Char) : Option Uuid :=
  if cs.length = 32 then ofDigits? cs
  else if cs.length = 36 then ofHyphenated? cs
  else if cs.length = 38 && cs.head? == some '\x7b' && cs.getLast? == some '\x7d' then
    ofHyphenated? (cs.drop 1).dropLast
  else if urn.isPrefixOf cs then ofHyphenated? (cs.drop 9)
  else none

end Uuid

end ParamSql
