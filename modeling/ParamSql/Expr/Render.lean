import ParamSql.Expr.Tokens

/-!
# The text of expressions

The text of an expression said by its structure, without tokens.

* `Expr.params` — the variables of an expression from left to right.
* `firstPosition` — the position of a name by its first occurrence.
* `Expr.render` — the text of an expression, given the text of each variable.
-/

set_option autoImplicit false

namespace ParamSql

/-- The position of a name among names, counted from one, where of equal names only the first
counts. -/
def firstPosition (names : List String) (name : String) : Nat := names.eraseDups.idxOf name + 1

namespace Expr

mutual

/-- The variables of an expression from left to right, each as often as it occurs. -/
def params : Expr → List Variable
  | .column _ | .raw _ => []
  | .param x => [x]
  | .binary lhs _ rhs => params lhs ++ params rhs
  | .between subject low high => params subject ++ params low ++ params high
  | .call _ args => paramsEach args
  | .list items => paramsEach items

/-- The variables of expressions from left to right. -/
def paramsEach : List Expr → List Variable
  | [] => []
  | e :: es => params e ++ paramsEach es

end

/-- Characters in parentheses if they are those of a composite expression. -/
def wrapChars (e : Expr) (cs : List Char) : List Char :=
  if e.isComposite then '(' :: cs ++ [')'] else cs

/-- Texts with a comma and a space between. -/
def listedChars (parts : List (List Char)) : List Char := (parts.intersperse [',', ' ']).flatten

mutual

/-- The characters of an expression, given those of its variables. -/
def render (place : Variable → List Char) : Expr → List Char
  | .column c => c.sql.toList
  | .param x => place x
  | .binary lhs op rhs =>
    wrapChars lhs (render place lhs) ++ ' ' :: op.sql.toList
      ++ ' ' :: wrapChars rhs (render place rhs)
  | .between subject low high =>
    wrapChars subject (render place subject) ++ [' ', 'B', 'E', 'T', 'W', 'E', 'E', 'N', ' ']
      ++ wrapChars low (render place low) ++ [' ', 'A', 'N', 'D', ' ']
      ++ wrapChars high (render place high)
  | .call f args => f.sql.toList ++ ' ' :: '(' :: listedChars (renderEach place args) ++ [')']
  | .raw sql => sql.toList
  | .list items => listedChars (renderEach place items)

/-- The characters of each of some expressions. -/
def renderEach (place : Variable → List Char) : List Expr → List (List Char)
  | [] => []
  | e :: es => render place e :: renderEach place es

end

end Expr

end ParamSql
