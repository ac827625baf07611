import ParamSql.Number.Numeral
import ParamSql.Text.Hex

/-!
# JSON documents

A JSON text as a tree: numerals as they are written, fields in the order they stand in, repeated
ones included.

* `Document` — the tree.
* `Document.print` — its compact text.
* `Document.nesting` — how deep its arrays and objects are nested.
-/

set_option autoImplicit false

namespace ParamSql

open ParamSql.Text

/-- A JSON document. A string is none when one of its escapes names half of a surrogate pair without
the other half: such a string is well formed, but stands for no text. -/
inductive Document where
  | null
  | bool (b : Bool)
  | number (n : Numeral)
  | string (s : Option String)
  | array (items : List Document)
  | object (fields : List (Option String × Document))

namespace Document

/-- The document of a text. -/
def text (s : String) : Document := .string (some s)

/-- The document of an integer. -/
def int (n : Int) : Document := .number (.ofInt n)

/-- An object with the fields given. -/
def record (fields : List (String × Document)) : Document :=
  .object (fields.map fun p => (some p.1, p.2))

/-! ## Printing -/

/-- How a character stands in a string. -/
def stringChar (c : Char) : List Char :=
  if c = '"' then ['\\', '"']
  else if c = '\\' then ['\\', '\\']
  else if c = '\x08' then ['\\', 'b']
  else if c = '\x0c' then ['\\', 'f']
  else if c = '\n' then ['\\', 'n']
  else if c = '\r' then ['\\', 'r']
  else if c = '\t' then ['\\', 't']
  else if c.toNat < 0x20 then '\\' :: 'u' :: lowerHex 4 c.toNat
  else [c]

/-- The characters of a string. -/
def printString : Option String → List Char
  | some s => '"' :: s.toList.flatMap stringChar ++ ['"']
  | none => ['"', '\\', 'u', 'd', '8', '0', '0', '"']

/-- Texts with commas between. -/
def separated (parts : List (List Char)) : List Char := (parts.intersperse [',']).flatten

mutual

/-- The compact text of a document. -/
def print : Document → List Char
  | .null => ['n', 'u', 'l', 'l']
  | .bool true => ['t', 'r', 'u', 'e']
  | .bool false => ['f', 'a', 'l', 's', 'e']
  | .number n => n.print
  | .string s => printString s
  | .array items => '[' :: separated (printEach items) ++ [']']
  | .object fields => '\x7b' :: separated (printFields fields) ++ ['\x7d']

/-- The compact texts of documents. -/
def printEach : List Document → List (List Char)
  | [] => []
  | d :: ds => print d :: printEach ds

/-- The compact texts of fields. -/
def printFields : List (Option String × Document) → List (List Char)
  | [] => []
  | (k, d) :: fs => (printString k ++ ':' :: print d) :: printFields fs

end

/-! ## Nesting -/

mutual

/-- The number of arrays and objects that stand inside one another. -/
def nesting : Document → Nat
  | .null | .bool _ | .number _ | .string _ => 0
  | .array items => nestingEach items + 1
  | .object fields => nestingFields fields + 1

/-- The deepest nesting among documents. -/
def nestingEach : List Document → Nat
  | [] => 0
  | d :: ds => max (nesting d) (nestingEach ds)

/-- The deepest nesting among fields. -/
def nestingFields : List (Option String × Document) → Nat
  | [] => 0
  | (_, d) :: fs => max (nesting d) (nestingFields fs)

end

end Document

end ParamSql
