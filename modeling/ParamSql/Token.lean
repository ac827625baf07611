import ParamSql.Variable

/-!
# Tokens

A query before it is compiled: pieces of SQL and variables, in order.

* `Token.eq` — equality, which does not look at the identities of variables.
* `Token.params` — the variables of tokens, in order.
* `commaSeparated` — runs of tokens with commas between.
-/

set_option autoImplicit false

namespace ParamSql

/-- A piece of SQL or a variable. -/
inductive Token where
  | sql (text : String)
  | param (x : Variable)

namespace Token

/-- Equality of tokens. -/
def eq : Token → Token → Bool
  | .sql a, .sql b => a == b
  | .param x, .param y => x.eq y
  | _, _ => false

/-- Equality of lists of tokens. -/
def eqEach : List Token → List Token → Bool
  | [], [] => true
  | a :: as, b :: bs => a.eq b && eqEach as bs
  | _, _ => false

/-- The variable of a token. -/
def asParam? : Token → Option Variable
  | .sql _ => none
  | .param x => some x

/-- The variables of tokens, in order, each as often as it occurs. -/
def params (tokens : List Token) : List Variable := tokens.filterMap asParam?

@[simp] theorem params_nil : params [] = [] := rfl

@[simp] theorem params_sql (text : String) (tokens : List Token) :
    params (.sql text :: tokens) = params tokens := rfl

@[simp] theorem params_param (x : Variable) (tokens : List Token) :
    params (.param x :: tokens) = x :: params tokens := rfl

@[simp] theorem params_append (as bs : List Token) :
    params (as ++ bs) = params as ++ params bs := List.filterMap_append

/-- The token between the items of a list. -/
def comma : Token := .sql ","

/-- The token before what is grouped. -/
def openParen : Token := .sql "("

/-- The token after what is grouped. -/
def closeParen : Token := .sql ")"

end Token

/-- Runs of tokens with commas between. -/
def commaSeparated (runs : List (List Token)) : List Token :=
  (runs.intersperse [Token.comma]).flatten

@[simp] theorem commaSeparated_nil : commaSeparated [] = [] := rfl

@[simp] theorem commaSeparated_singleton (run : List Token) : commaSeparated [run] = run := by
  simp [commaSeparated]

@[simp] theorem commaSeparated_cons_cons (a b : List Token) (runs : List (List Token)) :
    commaSeparated (a :: b :: runs) = a ++ Token.comma :: commaSeparated (b :: runs) := by
  simp [commaSeparated]

end ParamSql
