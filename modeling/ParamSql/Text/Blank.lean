import ParamSql.Text.CodePoint

/-!
# White space

The characters of the property White_Space, and cutting them off the start of a text.

* `isBlank` — the property.
* `trimStart` — the text without the blanks at its start.
-/

set_option autoImplicit false

namespace ParamSql.Text

/-- The code points of the property White_Space. -/
def blankRanges : List (Nat × Nat) := [
  (0x9, 0xd), (0x20, 0x20), (0x85, 0x85), (0xa0, 0xa0), (0x1680, 0x1680), (0x2000, 0x200a),
  (0x2028, 0x2029), (0x202f, 0x202f), (0x205f, 0x205f), (0x3000, 0x3000)]

/-- Whether a character is white space. -/
def isBlank (c : Char) : Bool := inRanges blankRanges c.toNat

/-- The text without the blanks at its start. -/
def trimStart (cs : List Char) : List Char := cs.dropWhile isBlank

end ParamSql.Text
