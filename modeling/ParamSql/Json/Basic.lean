import ParamSql.Json.Parser

/-!
# JSON values

What a JSON document says: integers of 64 bits stay integers, all other numbers are doubles, and the
fields of an object are ordered by their names, each name once.

* `Json.eq` — structural equality, numbers of the two kinds apart.
* `Json.ofDocument?` — the value of a document; of fields with one name the last one counts.
* `Json.toDocument` — the document of a value.
* `Json.ofText?`, `Json.text` — reading and writing as text.
-/

set_option autoImplicit false

namespace ParamSql

/-- A JSON value. The fields of an object stand in the order of their names. -/
inductive Json where
  | null
  | bool (b : Bool)
  | int (n : Int)
  | float (x : Binary .double)
  | string (s : String)
  | array (items : List Json)
  | object (fields : List (String × Json))

namespace Json

/-! ## Equality -/

mutual

/-- Structural equality; floating point numbers are compared as IEEE 754 says. -/
def eq : Json → Json → Bool
  | .null, .null => true
  | .bool a, .bool b => a == b
  | .int a, .int b => a == b
  | .float a, .float b => a.eq b
  | .string a, .string b => a == b
  | .array as, .array bs => eqEach as bs
  | .object as, .object bs => eqFields as bs
  | _, _ => false

/-- Equality of lists of values. -/
def eqEach : List Json → List Json → Bool
  | [], [] => true
  | a :: as, b :: bs => eq a b && eqEach as bs
  | _, _ => false

/-- Equality of fields, names included. -/
def eqFields : List (String × Json) → List (String × Json) → Bool
  | [], [] => true
  | (k, a) :: as, (l, b) :: bs => k == l && eq a b && eqFields as bs
  | _, _ => false

end

/-! ## From documents -/

/-- Puts a field where its name belongs, in place of one of the same name. -/
def insertField (key : String) (value : Json) : List (String × Json) → List (String × Json)
  | [] => [(key, value)]
  | (k, v) :: fields =>
    if key < k then (key, value) :: (k, v) :: fields
    else if key = k then (key, value) :: fields
    else (k, v) :: insertField key value fields

/-- The fields in the order of their names; of fields with one name the last one stays. -/
def sortFields (fields : List (String × Json)) : List (String × Json) :=
  fields.foldl (fun acc f => insertField f.1 f.2 acc) []

/-- The value of a numeral: an integer where it is one, else a double. -/
def ofNumeral? (n : Numeral) : Option Json :=
  match n.toInt? with
  | some i => some (.int i)
  | none => n.toDouble?.map .float

mutual

/-- The value of a document; none if a number is out of range or a string stands for no text. -/
def ofDocument? : Document → Option Json
  | .null => some .null
  | .bool b => some (.bool b)
  | .number n => ofNumeral? n
  | .string s => s.map .string
  | .array items => (ofEach? items).map .array
  | .object fields => (ofFields? fields).map fun fs => .object (sortFields fs)

/-- The values of documents. -/
def ofEach? : List Document → Option (List Json)
  | [] => some []
  | d :: ds =>
    match ofDocument? d, ofEach? ds with
    | some j, some js => some (j :: js)
    | _, _ => none

/-- The values of fields. -/
def ofFields? : List (Option String × Document) → Option (List (String × Json))
  | [] => some []
  | (k, d) :: fs =>
    match k, ofDocument? d, ofFields? fs with
    | some k, some j, some js => some ((k, j) :: js)
    | _, _, _ => none

end

/-! ## To documents -/

/-- The document of a double; no numeral stands for an infinity or NaN. -/
def ofDouble (x : Binary .double) : Document :=
  if x.isFinite then .number (.ofBinary Numeral.jsonDouble x) else .null

mutual

/-- The document of a value. -/
def toDocument : Json → Document
  | .null => .null
  | .bool b => .bool b
  | .int n => .int n
  | .float x => ofDouble x
  | .string s => .text s
  | .array items => .array (toDocuments items)
  | .object fields => .object (toFields fields)

/-- The documents of values. -/
def toDocuments : List Json → List Document
  | [] => []
  | j :: js => toDocument j :: toDocuments js

/-- The documents of fields. -/
def toFields : List (String × Json) → List (Option String × Document)
  | [] => []
  | (k, j) :: fs => (some k, toDocument j) :: toFields fs

end

/-! ## Text -/

/-- The compact text of a value. -/
def text (j : Json) : List Char := j.toDocument.print

/-- How deep the arrays and objects of a text may be nested. -/
def maxNesting : Nat := 127

/-- The value of a text. -/
def ofText? (s : String) : Option Json := do
  let d ← Document.ofText? s
  if d.nesting ≤ maxNesting then ofDocument? d else none

end Json

end ParamSql
