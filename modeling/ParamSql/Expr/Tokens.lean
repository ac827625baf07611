import ParamSql.Expr.Basic

/-!
# The tokens of expressions

* `Expr.tokens` — an expression as tokens.
* `Expr.operandTokens` — an expression as a part of another: in parentheses if it is composite.
-/

set_option autoImplicit false

namespace ParamSql

namespace Expr

/-- The tokens of an expression as a part of another one. -/
def wrap (e : Expr) (tokens : List Token) : List Token :=
  if e.isComposite then Token.openParen :: tokens ++ [Token.closeParen] else tokens

mutual

/-- The tokens of an expression. -/
def tokens : Expr → List Token
  | .column c => [.sql c.sql]
  | .param x => [.param x]
  | .binary lhs op rhs => wrap lhs (tokens lhs) ++ .sql op.sql :: wrap rhs (tokens rhs)
  | .between subject low high =>
    wrap subject (tokens subject) ++ .sql "BETWEEN" :: wrap low (tokens low)
      ++ .sql "AND" :: wrap high (tokens high)
  | .call f args =>
    .sql f.sql :: Token.openParen :: commaSeparated (tokensEach args) ++ [Token.closeParen]
  | .raw sql => [.sql sql]
  | .list items => commaSeparated (tokensEach items)

/-- The tokens of each of some expressions. -/
def tokensEach : List Expr → List (List Token)
  | [] => []
  | e :: es => tokens e :: tokensEach es

end

/-- The tokens of an expression as a part of another one, in parentheses if it is composite. -/
def operandTokens (e : Expr) : List Token := e.wrap e.tokens

@[simp] theorem tokensEach_eq_map (es : List Expr) : tokensEach es = es.map tokens := by
  induction es with
  | nil => rfl
  | cons e es ih => simp [tokensEach, ih]

end Expr

end ParamSql
