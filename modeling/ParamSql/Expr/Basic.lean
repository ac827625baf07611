import ParamSql.Column
import ParamSql.Operator
import ParamSql.Token

/-!
# Expressions

* `Expr` — columns, variables, operators, BETWEEN, aggregates, raw SQL and lists.
* `Expr.isComposite` — whether an expression has to be put in parentheses inside another.
* `Expr.isBoolean` — whether an expression is known to be a truth value.
* `Expr.eq` — equality, which does not look at the identities of variables.
-/

set_option autoImplicit false

namespace ParamSql

/-- An aggregate function. -/
inductive Aggregate where
  | count | sum | avg | min | max
  deriving DecidableEq, Repr

/-- The SQL name of an aggregate. -/
def Aggregate.sql : Aggregate → String
  | count => "COUNT"
  | sum => "SUM"
  | avg => "AVG"
  | min => "MIN"
  | max => "MAX"

/-- The word for an aggregate in the names of parameters. -/
def Aggregate.label : Aggregate → String
  | count => "count"
  | sum => "sum"
  | avg => "avg"
  | min => "min"
  | max => "max"

/-- An expression. -/
inductive Expr where
  | column (c : Column)
  | param (x : Variable)
  | binary (lhs : Expr) (op : Operator) (rhs : Expr)
  | between (subject low high : Expr)
  | call (f : Aggregate) (args : List Expr)
  | raw (sql : String)
  | list (items : List Expr)

namespace Expr

/-- The aggregate COUNT over all rows. -/
def countAll : Expr := .call .count [.raw "*"]

/-- Whether an expression has to be put in parentheses inside another. -/
def isComposite : Expr → Bool
  | .column _ | .param _ | .raw _ => false
  | .binary .. | .between .. | .call .. | .list _ => true

/-- Whether an expression is known to be a truth value. -/
def isBoolean : Expr → Bool
  | .param x => x.isBoolean
  | .binary _ op _ => op.isBoolean
  | .between .. => true
  | .column _ | .call .. | .raw _ | .list _ => false

mutual

/-- Equality of expressions. -/
def eq : Expr → Expr → Bool
  | .column a, .column b => a == b
  | .param x, .param y => x.eq y
  | .binary a o b, .binary a' o' b' => eq a a' && o == o' && eq b b'
  | .between a b c, .between a' b' c' => eq a a' && eq b b' && eq c c'
  | .call f as, .call g bs => f == g && eqEach as bs
  | .raw a, .raw b => a == b
  | .list as, .list bs => eqEach as bs
  | _, _ => false

/-- Equality of lists of expressions. -/
def eqEach : List Expr → List Expr → Bool
  | [], [] => true
  | a :: as, b :: bs => eq a b && eqEach as bs
  | _, _ => false

end

end Expr

end ParamSql
