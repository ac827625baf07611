import ParamSql.Query.Bind

/-!
# Handing queries to the database

* `BoundQuery.handOff` — the arguments as the driver of the database takes them: one for each value,
  NULL with the type that it is sent as. Arrays cannot be sent.
-/

set_option autoImplicit false

namespace ParamSql

/-- An argument as it is sent. -/
inductive SentArgument where
  | value (v : Value)
  | null (type : ValueType)

/-- The argument of a value, with the type hinted at for it. NULL without a hint goes as text. -/
def SentArgument.of (v : Value) (hint : Option ValueType) : Except Error SentArgument :=
  match v, hint with
  | .null, some .array => .error (.unsupportedType .array)
  | .null, hint => .ok (.null (hint.getD .text))
  | .array _, _ => .error (.unsupportedType .array)
  | v, _ => .ok (.value v)

/-- The arguments of values; a value without a hint at its place has none. -/
def sendEach : List Value → List (Option ValueType) → Except Error (List SentArgument)
  | [], _ => .ok []
  | v :: vs, hints => do
    let sent ← SentArgument.of v (hints.head?.join)
    let more ← sendEach vs hints.tail
    .ok (sent :: more)

/-- The arguments of a query as they are sent. -/
def BoundQuery.handOff (q : BoundQuery) : Except Error (List SentArgument) :=
  sendEach q.args q.typeHints

end ParamSql
