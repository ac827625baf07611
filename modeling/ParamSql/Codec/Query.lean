import ParamSql.Codec.Value
import ParamSql.Query.Bind

/-!
# Queries as documents

Parameters, conflicts, compiled and bound queries and compile options are records. A parameter that
has no type hint or no default has null there, which is not the default NULL.

* `encode` and `decode?` of `Parameter`, `Conflict`, `CompiledQuery`, `BoundQuery` and
  `CompileOptions`.
-/

set_option autoImplicit false

namespace ParamSql

open ParamSql.Codec

/-- The document of an optional part: null when it is missing. -/
def Codec.encodeOption {α : Type} (encode : α → Document) : Option α → Document
  | none => .null
  | some a => encode a

/-! ## Parameters -/

namespace Parameter

/-- The document of a parameter. -/
def encode (p : Parameter) : Document :=
  .record [("name", .text p.name), ("type_hint", encodeOption ValueType.encode p.typeHint),
    ("default", encodeOption Value.encode p.default)]

/-- The parameter of a document. -/
def decode? : Decoder Parameter := fun depth d =>
  match fields? ["name", "type_hint", "default"] 3 depth d with
  | some [name, hint, default] => do
    let name ← present? Decoder.text depth name
    let hint ← presentOr? none (Decoder.nullable (Decoder.within ValueType.decode?)) depth hint
    let default ← presentOr? none (Decoder.nullable (Decoder.within Value.decode?)) depth default
    some ⟨name, hint, default⟩
  | _ => none

end Parameter

/-! ## Conflicts -/

namespace Conflict

/-- The tag of a conflict. -/
def tag : String := "ConflictingParameterDefinition"

/-- The document of a conflict. -/
def encode (c : Conflict) : Document :=
  .record [(tag, .record [("name", .text c.name), ("kept", c.kept.encode),
    ("ignored", c.ignored.encode)])]

/-- The conflict of the document behind the tag. -/
def decodeBody? : Decoder Conflict := fun depth d =>
  match fields? ["name", "kept", "ignored"] 3 depth d with
  | some [name, kept, ignored] => do
    let name ← present? Decoder.text depth name
    let kept ← present? Parameter.decode? depth kept
    let ignored ← present? Parameter.decode? depth ignored
    some ⟨name, kept, ignored⟩
  | _ => none

/-- The conflict of a document. -/
def decode? : Decoder Conflict
  | depth + 1, .object [(some t, body)] => if t = tag then decodeBody? depth body else none
  | _, _ => none

end Conflict

/-! ## Compiled queries -/

namespace CompiledQuery

/-- The document of a compiled query. -/
def encode (q : CompiledQuery) : Document :=
  .record [("text", .text q.text), ("parameters", .array (q.parameters.map Parameter.encode)),
    ("diagnostics", .array (q.conflicts.map Conflict.encode))]

/-- The compiled query of a document. -/
def decode? : Decoder CompiledQuery := fun depth d =>
  match fields? ["text", "parameters", "diagnostics"] 3 depth d with
  | some [text, parameters, conflicts] => do
    let text ← present? Decoder.text depth text
    let parameters ← present? (Decoder.list Parameter.decode?) depth parameters
    let conflicts ← present? (Decoder.list Conflict.decode?) depth conflicts
    some ⟨text, parameters, conflicts⟩
  | _ => none

end CompiledQuery

/-! ## Bound queries -/

namespace BoundQuery

/-- The document of a bound query. -/
def encode (q : BoundQuery) : Document :=
  .record [("sql", .text q.sql), ("args", .array (q.args.map Value.encode)),
    ("type_hints", .array (q.typeHints.map (encodeOption ValueType.encode)))]

/-- The bound query of a document; its type hints may be missing. -/
def decode? : Decoder BoundQuery := fun depth d =>
  match fields? ["sql", "args", "type_hints"] 2 depth d with
  | some [sql, args, hints] => do
    let sql ← present? Decoder.text depth sql
    let args ← present? (Decoder.list (Decoder.within Value.decode?)) depth args
    let hints ← presentOr? []
      (Decoder.list (Decoder.nullable (Decoder.within ValueType.decode?))) depth hints
    some ⟨sql, args, hints⟩
  | _ => none

end BoundQuery

/-! ## Options -/

/-- The tags of the styles of placeholders. -/
def PlaceholderStyle.tags : List (String × PlaceholderStyle) :=
  [("dollar", .dollar), ("numbered", .numbered)]

/-- The document of a style of placeholders. -/
def PlaceholderStyle.encode : PlaceholderStyle → Document
  | dollar => .text "dollar"
  | numbered => .text "numbered"

namespace CompileOptions

/-- The document of compile options. -/
def encode (o : CompileOptions) : Document := .record [("placeholder", o.placeholder.encode)]

/-- The compile options of a document; what is missing is as usual. -/
def decode? : Decoder CompileOptions := fun depth d =>
  match fields? ["placeholder"] 0 depth d with
  | some [style] => do
    let style ← presentOr? .dollar (Decoder.within (tagAlone? PlaceholderStyle.tags)) depth style
    some ⟨style⟩
  | _ => none

end CompileOptions

/-! ## Texts -/

namespace Codec

/-- What a text encodes. -/
def decodeText? {α : Type} (decode : Decoder α) (s : String) : Option α :=
  (Document.ofText? s).bind (decode Json.maxNesting)

/-- The text of a document. -/
def encodeText (d : Document) : String := String.ofList d.print

end Codec

end ParamSql
