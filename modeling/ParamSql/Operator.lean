/-!
# Binary operators

* `Operator.sql` — how an operator is written in SQL.
* `Operator.label` — the word for it in the names of parameters.
* `Operator.ofSpelling?` — the operator that a spelling stands for; `ofSpelling?_sql` says that
  every operator is read back from the way it is written.
* `Operator.isBoolean` — whether its result is a truth value.
-/

set_option autoImplicit false

namespace ParamSql

/-- A binary operator. -/
inductive Operator where
  | add | sub | mul | div
  | eq | ne | le | lt | ge | gt
  | and | or | like
  deriving DecidableEq, Repr

namespace Operator

/-- How an operator is written in SQL. -/
def sql : Operator → String
  | add => "+"
  | sub => "-"
  | mul => "*"
  | div => "/"
  | eq => "="
  | ne => "<>"
  | le => "<="
  | lt => "<"
  | ge => ">="
  | gt => ">"
  | and => "AND"
  | or => "OR"
  | like => "LIKE"

/-- The word for an operator in the names of parameters. -/
def label : Operator → String
  | add => "add"
  | sub => "sub"
  | mul => "mul"
  | div => "truediv"
  | eq => "eq"
  | ne => "ne"
  | le => "le"
  | lt => "lt"
  | ge => "ge"
  | gt => "gt"
  | and => "and"
  | or => "or"
  | like => "like"

/-- Whether the result of an operator is a truth value. LIKE does not count as one. -/
def isBoolean : Operator → Bool
  | add | sub | mul | div | like => false
  | eq | ne | le | lt | ge | gt | and | or => true

/-- The operator that a spelling stands for. -/
def ofSpelling? (spelling : String) : Option Operator :=
  match spelling with
  | "+" => some add
  | "-" => some sub
  | "*" => some mul
  | "/" => some div
  | "=" => some eq
  | "<>" | "!=" => some ne
  | "<=" => some le
  | "<" => some lt
  | ">=" => some ge
  | ">" => some gt
  | "AND" | "and" => some and
  | "OR" | "or" => some or
  | "LIKE" | "like" => some like
  | _ => none

theorem ofSpelling?_sql (op : Operator) : ofSpelling? op.sql = some op := by
  cases op <;> rfl

end Operator

end ParamSql
