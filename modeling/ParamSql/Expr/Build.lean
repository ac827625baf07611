import ParamSql.Expr.Basic

/-!
# Building expressions

Data that is compared with an expression becomes a variable of its own. Its name is made of the
expression and of the comparison, so that the caller can give another value for it.

* `Expr.compare`, `Expr.range` — comparisons with an `Operand`.
* `Expr.plus`, `Expr.dividedBy` — sums and quotients, which on truth values are AND and OR.
* `Expr.group` — values joined by an operator, from left to right.
-/

set_option autoImplicit false

namespace ParamSql

/-- What stands on the other side of a comparison: an expression as it is, or data for a variable
with an identity. -/
inductive Operand where
  | expr (e : Expr)
  | bind (id : VariableId) (default : Default)

namespace Expr

/-- What the names of variables compared with an expression start with. -/
def stem : Expr → String
  | .column c => c.argument
  | .param x => x.name
  | .call f _ => f.label
  | .binary .. | .between .. | .raw _ | .list _ => "expr"

/-- The name of a variable compared with an expression. Equality adds no word to it, except beside
a variable, whose own name it must not take. -/
def operandName (e : Expr) (label : String) : String :=
  match e with
  | .param _ => e.stem ++ "_" ++ label
  | _ => if label = Operator.eq.label then e.stem else e.stem ++ "_" ++ label

/-- An operand as an expression. -/
def ofOperand (subject : Expr) (label : String) : Operand → Expr
  | .expr e => e
  | .bind id default => .param ⟨id, subject.operandName label, default⟩

/-- A comparison. -/
def compare (lhs : Expr) (op : Operator) (rhs : Operand) : Expr :=
  .binary lhs op (lhs.ofOperand op.label rhs)

/-- Whether an expression lies between two others. -/
def range (subject : Expr) (low high : Operand) : Expr :=
  .between subject (subject.ofOperand "min" low) (subject.ofOperand "max" high)

/-- A sum, or the conjunction if one of the parts is a truth value. -/
def plus (lhs rhs : Expr) : Expr :=
  .binary lhs (if lhs.isBoolean || rhs.isBoolean then .and else .add) rhs

/-- A quotient, or the disjunction if one of the parts is a truth value. -/
def dividedBy (lhs rhs : Expr) : Expr :=
  .binary lhs (if lhs.isBoolean || rhs.isBoolean then .or else .div) rhs

/-- The values joined by an operator, from left to right; there must be one at least. -/
def group (op : Operator) : List Expr → Except Error Expr
  | [] => .error .emptyGroup
  | e :: es => .ok (es.foldl (fun acc next => .binary acc op next) e)

end Expr

end ParamSql
