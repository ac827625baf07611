import ParamSql.Query.Compile

/-!
# Calling queries

* `Args` — values by position and values by name.
* `CompiledQuery.call` — the query with a value for each parameter.
* `CompiledQuery.signature` — the parameters as the caller sees them.
-/

set_option autoImplicit false

namespace ParamSql

/-- The arguments of a call. -/
structure Args where
  positional : List Value := []
  named : List (String × Value) := []

namespace Args

/-- Gives the value of a name; a value given for it before is replaced in its place. -/
def setNamed (name : String) (v : Value) : List (String × Value) → List (String × Value)
  | [] => [(name, v)]
  | (n, w) :: rest => if n = name then (n, v) :: rest else (n, w) :: setNamed name v rest

/-- Adds a value by position. -/
def arg (a : Args) (v : Value) : Args := { a with positional := a.positional ++ [v] }

/-- Adds a value by name. -/
def keyword (a : Args) (name : String) (v : Value) : Args :=
  { a with named := setNamed name v a.named }

/-- The arguments of values by position. -/
def ofValues (vs : List Value) : Args := ⟨vs, []⟩

/-- The arguments of values by name, given one after the other. -/
def ofPairs (pairs : List (String × Value)) : Args :=
  pairs.foldl (fun a p => a.keyword p.1 p.2) {}

end Args

/-- A query with a value for each parameter, and the types that NULL is to have there. -/
structure BoundQuery where
  sql : String
  args : List Value
  typeHints : List (Option ValueType)

/-- Takes the value of a name out of a list of values by name. -/
def takeNamed? (name : String) :
    List (String × Value) → Option (Value × List (String × Value))
  | [] => none
  | (n, v) :: rest =>
    if n = name then some (v, rest)
    else (takeNamed? name rest).map fun (w, left) => (w, (n, v) :: left)

/-- The values of parameters, each the one given for its name or else its default, and the values by
name that no parameter took. -/
def fill : List Parameter → List (String × Value) →
    Except Error (List Value × List (String × Value))
  | [], named => .ok ([], named)
  | p :: ps, named =>
    match takeNamed? p.name named, p.default with
    | some (v, rest), _ => (fill ps rest).map fun (vs, left) => (v :: vs, left)
    | none, some v => (fill ps named).map fun (vs, left) => (v :: vs, left)
    | none, none => .error (.missingArgument p.name)

namespace CompiledQuery

/-- The parameters that the caller has to give a value for. -/
def required (q : CompiledQuery) : List Parameter := q.parameters.filter (·.isRequired)

/-- The parameters that have a value of their own. -/
def optional (q : CompiledQuery) : List Parameter := q.parameters.filter (!·.isRequired)

/-- The parameters as the caller sees them. -/
def signature (q : CompiledQuery) : String :=
  "(" ++ String.intercalate ", " (q.parameters.map (·.display)) ++ ")"

/-- The query with a value for each parameter: the values by position come first, each parameter
after them takes a value by name or its default. -/
def call (q : CompiledQuery) (args : Args) : Except Error BoundQuery :=
  if q.parameters.length < args.positional.length then
    .error (.tooManyArguments q.parameters.length args.positional.length)
  else
    match fill (q.parameters.drop args.positional.length) args.named with
    | .error e => .error e
    | .ok (values, []) =>
      .ok ⟨q.text, args.positional ++ values, q.parameters.map (·.typeHint)⟩
    | .ok (_, left) => .error (.unexpectedArguments (left.map (·.1)))

end CompiledQuery

end ParamSql
