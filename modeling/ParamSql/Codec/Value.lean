import ParamSql.Codec.Decoder
import ParamSql.Time.Reader
import ParamSql.Value.Basic

/-!
# Values as documents

A value is an object of one field, named by the tag of its type; NULL is its tag alone.

* `ValueType.encode`, `ValueType.decode?` — types.
* `Value.encode`, `Value.decode?` — values.
-/

set_option autoImplicit false

namespace ParamSql

/-- The tag of a type. -/
def ValueType.tag : ValueType → String
  | bool => "Bool"
  | int32 => "I32"
  | int64 => "I64"
  | float32 => "F32"
  | float64 => "F64"
  | text => "String"
  | bytes => "Bytes"
  | json => "Json"
  | array => "Array"
  | uuid => "Uuid"
  | timestamp => "Timestamp"
  | decimal => "Decimal"

/-- The type of a tag. -/
def ValueType.ofTag? (tag : String) : Option ValueType :=
  ValueType.all.find? fun t => t.tag == tag

/-- The document of a type. -/
def ValueType.encode (t : ValueType) : Document := .text t.tag

/-- The type of a document. -/
def ValueType.decode? (d : Document) : Option ValueType :=
  Codec.tagAlone? (ValueType.all.map fun t => (t.tag, t)) d

namespace Value

/-- The document of a binary number; no numeral stands for an infinity or NaN. -/
def encodeBinary {f : BinaryFormat} (style : Numeral.Style) (x : Binary f) : Document :=
  if x.isFinite then .number (.ofBinary style x) else .null

/-- The document of what stands behind the tag of a type. -/
def tagged (t : ValueType) (payload : Document) : Document :=
  .record [(t.tag, payload)]

/-- The document of characters. -/
def chars (cs : List Char) : Document := .text (String.ofList cs)

mutual

/-- The document of a value. -/
def encode : Value → Document
  | .null => .text "Null"
  | .bool b => tagged .bool (.bool b)
  | .int32 n => tagged .int32 (.int n.toInt)
  | .int64 n => tagged .int64 (.int n.toInt)
  | .float32 x => tagged .float32 (encodeBinary Numeral.jsonSingle x)
  | .float64 x => tagged .float64 (encodeBinary Numeral.jsonDouble x)
  | .text s => tagged .text (.text s)
  | .bytes bs => tagged .bytes (.array (bs.map fun b => .int b.toNat))
  | .json j => tagged .json j.toDocument
  | .array items => tagged .array (.array (encodeEach items))
  | .uuid u => tagged .uuid (chars u.print)
  | .timestamp t => tagged .timestamp (chars (t.print Timestamp.letterZone))
  | .decimal d => tagged .decimal (chars d.print)

/-- The documents of values. -/
def encodeEach : List Value → List Document
  | [] => []
  | v :: vs => encode v :: encodeEach vs

end

/-- An integer between bounds. -/
def decodeInt? (least most : Int) : Document → Option Int
  | .number n => n.toInt?.bind fun i => if least ≤ i ∧ i ≤ most then some i else none
  | _ => none

/-- A binary number. An integer is rounded as it is, any other numeral as a double. -/
def decodeBinary? (f : BinaryFormat) : Document → Option (Binary f)
  | .number n =>
    match n.toInt? with
    | some i => some (Binary.ofInt f i)
    | none => n.toDouble?.map (Binary.convert f)
  | _ => none

/-- A decimal: a text, or a numeral, which is an integer or read as a double. -/
def decodeDecimal? : Document → Option Decimal
  | .string (some s) => Decimal.ofText? s.toList
  | .number n =>
    match n.toInt? with
    | some i => Decimal.ofInt? i
    | none => n.toDouble?.bind fun x => Decimal.ofPositional? x.positional
  | _ => none

/-- What a text stands for. -/
def decodeChars? {α : Type} (read : List Char → Option α) : Document → Option α
  | .string (some s) => read s.toList
  | _ => none

/-- A byte. -/
def decodeByte? (d : Document) : Option UInt8 :=
  (decodeInt? 0 255 d).map fun n => UInt8.ofNat n.toNat

/-- The value of a type other than an array that stands behind its tag. -/
def decodeScalar? (t : ValueType) (d : Document) : Option Value :=
  match t with
  | .bool => match d with
    | .bool b => some (.bool b)
    | _ => none
  | .int32 =>
    (decodeInt? Int32.minValue.toInt Int32.maxValue.toInt d).map fun n => .int32 (Int32.ofInt n)
  | .int64 =>
    (decodeInt? Int64.minValue.toInt Int64.maxValue.toInt d).map fun n => .int64 (Int64.ofInt n)
  | .float32 => (decodeBinary? .single d).map .float32
  | .float64 => (decodeBinary? .double d).map .float64
  | .text => (decodeChars? (fun cs => some (String.ofList cs)) d).map .text
  | .bytes => match d with
    | .array items => (items.mapM decodeByte?).map .bytes
    | _ => none
  | .json => (Json.ofDocument? d).map .json
  | .array => none
  | .uuid => (decodeChars? Uuid.ofText? d).map .uuid
  | .timestamp => (decodeChars? Timestamp.ofText? d).map .timestamp
  | .decimal => (decodeDecimal? d).map .decimal

mutual

/-- The value of a document. -/
def decode? : Document → Option Value
  | .string (some tag) => if tag = "Null" then some .null else none
  | .object fields => decodeTagged? fields
  | _ => none

/-- The value of the fields of an object, of which there must be one. -/
def decodeTagged? : List (Option String × Document) → Option Value
  | [(some tag, d)] =>
    if tag = ValueType.array.tag then
      match d with
      | .array items => (decodeEach? items).map .array
      | _ => none
    else if tag = "Null" then
      match d with
      | .null => some .null
      | _ => none
    else (ValueType.ofTag? tag).bind fun t => decodeScalar? t d
  | _ => none

/-- The values of documents. -/
def decodeEach? : List Document → Option (List Value)
  | [] => some []
  | d :: ds =>
    match decode? d, decodeEach? ds with
    | some v, some vs => some (v :: vs)
    | _, _ => none

end

end Value

end ParamSql
