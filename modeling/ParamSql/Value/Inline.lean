import ParamSql.Text.Quoted
import ParamSql.Value.Basic

/-!
# Values in SQL

* `Value.inline` — a value as an SQL expression: texts and documents as string literals, identifiers
  and times between quotes as they are, bytes as a hexadecimal literal, numbers bare, and arrays by
  their items.
-/

set_option autoImplicit false

namespace ParamSql.Value

open ParamSql.Text

/-- The upper case hexadecimal digits of bytes, two for each. -/
def hexBytes (bs : List UInt8) : List Char := bs.flatMap fun b => upperHex 2 b.toNat

/-- The digits of an integer after a minus sign if it is negative. -/
def intDigits (n : Int) : List Char := (Numeral.ofInt n).print

/-- Texts with a comma and a space between. -/
def listed (parts : List (List Char)) : List Char := (parts.intersperse [',', ' ']).flatten

mutual

/-- The characters of a value as an SQL expression. -/
def inlineChars : Value → List Char
  | .null => ['N', 'U', 'L', 'L']
  | .bool true => ['T', 'R', 'U', 'E']
  | .bool false => ['F', 'A', 'L', 'S', 'E']
  | .int32 n => intDigits n.toInt
  | .int64 n => intDigits n.toInt
  | .float32 x => x.positional
  | .float64 x => x.positional
  | .text s => literal s.toList
  | .bytes bs => 'X' :: enclosed (hexBytes bs)
  | .json j => literal j.text
  | .array items => ['A', 'R', 'R', 'A', 'Y', '['] ++ listed (inlineEach items) ++ [']']
  | .uuid u => enclosed u.print
  | .timestamp t => enclosed (t.print Timestamp.offsetZone)
  | .decimal d => d.print

/-- The characters of values as SQL expressions. -/
def inlineEach : List Value → List (List Char)
  | [] => []
  | v :: vs => inlineChars v :: inlineEach vs

end

/-- A value as an SQL expression. -/
def inline (v : Value) : String := String.ofList v.inlineChars

end ParamSql.Value
