import ParamSql.Error
import ParamSql.Name
import ParamSql.Value.Inline

/-!
# Variables

A variable stands for a parameter in a query. It has an identity, a name and what is declared of its
value; two variables that agree in name and declaration are equal, but only copies of one variable
are the same.

* `Variable.named` — a variable of a valid name.
* `Variable.parameter` — the parameter that a variable asks for.
* `Variable.eq` — equality, which does not look at identities.
-/

set_option autoImplicit false

namespace ParamSql

/-- The identity of a variable. -/
structure VariableId where
  index : Nat
  deriving DecidableEq, Repr

/-- The identity that stands `n` places further in the order in which identities are given out. -/
def VariableId.advance (id : VariableId) (n : Nat) : VariableId := ⟨id.index + n⟩

/-- What is declared of the value of a variable. -/
inductive Default where
  /-- The caller has to give a value. -/
  | required
  /-- NULL, unless the caller gives a value. -/
  | null
  /-- The caller has to give a value of a type. -/
  | typed (type : ValueType)
  /-- This value, unless the caller gives another. -/
  | value (v : Value)

namespace Default

/-- The declaration of plain data: NULL declares the value NULL. -/
def ofValue : Value → Default
  | .null => .null
  | v => .value v

/-- Whether the caller has to give a value. -/
def isRequired : Default → Bool
  | .required | .typed _ => true
  | .null | .value _ => false

/-- Equality of declarations. -/
def eq : Default → Default → Bool
  | .required, .required => true
  | .null, .null => true
  | .typed a, .typed b => a == b
  | .value a, .value b => a == b
  | _, _ => false

end Default

/-- A variable. -/
structure Variable where
  id : VariableId
  name : String
  default : Default

/-- A parameter of a query: the type expected of its value, and the value it takes if none is
given. -/
structure Parameter where
  name : String
  typeHint : Option ValueType
  default : Option Value

namespace Parameter

/-- Whether the caller has to give a value. -/
def isRequired (p : Parameter) : Bool := p.default.isNone

/-- Whether two parameters are declared alike, names apart. -/
def sameDefinition (p q : Parameter) : Bool :=
  p.typeHint == q.typeHint && p.default == q.default

/-- Declared alike means of one type hint and of equal defaults. -/
theorem sameDefinition_iff {p q : Parameter} :
    p.sameDefinition q = true ↔ p.typeHint = q.typeHint ∧ (p.default == q.default) = true := by
  rw [sameDefinition, Bool.and_eq_true, beq_iff_eq]

/-- Equality of parameters. -/
def eq (p q : Parameter) : Bool := p.name == q.name && p.sameDefinition q

/-- A parameter as a signature shows it. -/
def display (p : Parameter) : String :=
  p.name
    ++ (match p.typeHint with
      | none => ""
      | some t => ": " ++ t.sql)
    ++ (match p.default with
      | none => ""
      | some v => " = " ++ v.inline)

end Parameter

namespace Variable

/-- The variable of a name, which has to be valid. -/
def named (name : String) (id : VariableId) (default : Default) : Except Error Variable :=
  if Name.isValid name then .ok ⟨id, name, default⟩ else .error (.invalidIdentifier name)

/-- Whether the declared value is a truth value. -/
def isBoolean (x : Variable) : Bool :=
  match x.default with
  | .value v => v.isBool
  | _ => false

/-- The parameter that a variable asks for. A declared value hints at its type. -/
def parameter (x : Variable) : Parameter :=
  match x.default with
  | .required => ⟨x.name, none, none⟩
  | .null => ⟨x.name, none, some .null⟩
  | .typed t => ⟨x.name, some t, none⟩
  | .value v => ⟨x.name, v.type?, some v⟩

/-- Equality of name and declaration. -/
def eq (x y : Variable) : Bool := x.name == y.name && x.default.eq y.default

/-- A variable as a message shows it. -/
def display (x : Variable) : String :=
  "Variable(" ++ x.name
    ++ (match x.default with
      | .required => ""
      | .null => ", NULL"
      | .typed t => ": " ++ t.sql
      | .value v => ", " ++ v.inline)
    ++ ")"

@[simp] theorem parameter_name (x : Variable) : x.parameter.name = x.name := by
  unfold parameter
  split <;> rfl

/-- Plain data is the default of the variable that it is bound to. -/
theorem default_parameter_ofValue (id : VariableId) (name : String) (v : Value) :
    (parameter ⟨id, name, .ofValue v⟩).default = some v := by
  cases v <;> rfl

end Variable

end ParamSql
