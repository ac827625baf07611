import ParamSql.Json.Basic
import ParamSql.Number.Decimal
import ParamSql.Time.Timestamp
import ParamSql.Uuid

/-!
# Values

What can be bound to a parameter, and the types that values have.

* `ValueType.sql` — the SQL name of a type.
* `Value.type?` — the type of a value; NULL has none.
* `Value.eq` — equality, never across types; floating point numbers are compared as IEEE 754 says
  and decimals by the numbers they are.
-/

set_option autoImplicit false

namespace ParamSql

/-- The type of a value. -/
inductive ValueType where
  | bool | int32 | int64 | float32 | float64 | text | bytes | json | array
  | uuid | timestamp | decimal
  deriving DecidableEq, Repr

/-- A value. -/
inductive Value where
  | null
  | bool (b : Bool)
  | int32 (n : Int32)
  | int64 (n : Int64)
  | float32 (x : Binary .single)
  | float64 (x : Binary .double)
  | text (s : String)
  | bytes (bs : List UInt8)
  | json (j : Json)
  | array (items : List Value)
  | uuid (u : Uuid)
  | timestamp (t : Timestamp)
  | decimal (d : Decimal)

namespace ValueType

/-- The SQL name of a type. -/
def sql : ValueType → String
  | bool => "BOOLEAN"
  | int32 => "INTEGER"
  | int64 => "BIGINT"
  | float32 => "REAL"
  | float64 => "DOUBLE PRECISION"
  | text => "TEXT"
  | bytes => "BYTEA"
  | json => "JSON"
  | array => "ARRAY"
  | uuid => "UUID"
  | timestamp => "TIMESTAMPTZ"
  | decimal => "NUMERIC"

/-- All types. -/
def all : List ValueType :=
  [bool, int32, int64, float32, float64, text, bytes, json, array, uuid, timestamp, decimal]

end ValueType

namespace Value

/-- The type of a value. -/
def type? : Value → Option ValueType
  | .null => none
  | .bool _ => some .bool
  | .int32 _ => some .int32
  | .int64 _ => some .int64
  | .float32 _ => some .float32
  | .float64 _ => some .float64
  | .text _ => some .text
  | .bytes _ => some .bytes
  | .json _ => some .json
  | .array _ => some .array
  | .uuid _ => some .uuid
  | .timestamp _ => some .timestamp
  | .decimal _ => some .decimal

/-- The SQL name of the type of a value; NULL names itself. -/
def typeName (v : Value) : String :=
  match v.type? with
  | none => "NULL"
  | some t => t.sql

/-- Whether a value is NULL. -/
def isNull : Value → Bool
  | .null => true
  | _ => false

/-- Whether a value is a truth value. -/
def isBool : Value → Bool
  | .bool _ => true
  | _ => false

/-- The items of an array. -/
def items? : Value → Option (List Value)
  | .array items => some items
  | _ => none

mutual

/-- Equality of values. -/
def eq : Value → Value → Bool
  | .null, .null => true
  | .bool a, .bool b => a == b
  | .int32 a, .int32 b => a == b
  | .int64 a, .int64 b => a == b
  | .float32 a, .float32 b => a.eq b
  | .float64 a, .float64 b => a.eq b
  | .text a, .text b => a == b
  | .bytes a, .bytes b => a == b
  | .json a, .json b => a.eq b
  | .array as, .array bs => eqEach as bs
  | .uuid a, .uuid b => a == b
  | .timestamp a, .timestamp b => a == b
  | .decimal a, .decimal b => a.eq b
  | _, _ => false

/-- Equality of lists of values. -/
def eqEach : List Value → List Value → Bool
  | [], [] => true
  | a :: as, b :: bs => eq a b && eqEach as bs
  | _, _ => false

end

instance : BEq Value := ⟨Value.eq⟩

end Value

end ParamSql
