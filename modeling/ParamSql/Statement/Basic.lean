import ParamSql.Expr.Build
import ParamSql.Expr.Tokens
import ParamSql.Query.Compile

/-!
# Statements

What SELECT, INSERT, UPDATE and DELETE have in common. A statement is built step by step; a step
whose argument makes no sense is remembered by its error and has no other effect, and a statement
with an error does not compile.

* `Statement` — the tokens of a statement and whether it may be compiled.
* `Condition`, `Filter` — conditions and the WHERE clause that they make.
* `Selection` — what can be selected, grouped by and ordered by.
* `note` — remembers an error, unless there is one already.
-/

set_option autoImplicit false

namespace ParamSql

/-- A kind of statement. -/
class Statement (α : Type) where
  /-- The tokens of a statement, whether or not it may be compiled. -/
  tokens : α → List Token
  /-- Why a statement may not be compiled. -/
  validate : α → Except Error Unit

namespace Statement

variable {α : Type} [Statement α]

/-- The query of a statement. -/
def compileWith (s : α) (options : CompileOptions) : Except Error CompiledQuery :=
  (validate s).map fun _ => ParamSql.compile (tokens s) options

/-- The query of a statement, in the usual style. -/
def compile (s : α) : Except Error CompiledQuery := compileWith s {}

/-- The text of a statement. -/
def toSql (s : α) : Except Error String := (compile s).map (·.text)

end Statement

/-- Remembers an error, unless there is one already. -/
def note (error : Option Error) (e : Error) : Option Error := error.or (some e)

/-- Fails with an error, if there is one. -/
def failWith : Option Error → Except Error Unit
  | none => .ok ()
  | some e => .error e

/-! ## Conditions -/

/-- An operator, or a text that should spell one. -/
inductive OperatorName where
  | known (op : Operator)
  | spelled (text : String)

/-- The operator of a name. -/
def OperatorName.resolve : OperatorName → Except Error Operator
  | .known op => .ok op
  | .spelled text =>
    match Operator.ofSpelling? text with
    | some op => .ok op
    | none => .error (.unknownOperator text)

/-- A condition: an expression, or a column, named by a text, compared with an operand. -/
inductive Condition where
  | expr (e : Expr)
  | compare (column : String) (op : OperatorName) (rhs : Operand)

/-- The expression of a condition. Of two faults the operator's is the one reported. -/
def Condition.resolve : Condition → Except Error Expr
  | .expr e => .ok e
  | .compare column op rhs => do
    let op ← op.resolve
    let column ← Column.parse column
    .ok ((Expr.column column).compare op rhs)

/-! ## Filters -/

/-- A WHERE clause: one expression, or none for no clause. -/
structure Filter where
  constraint : Option Expr := none

namespace Filter

/-- Whether there is no clause. -/
def isEmpty (f : Filter) : Bool := f.constraint.isNone

/-- Joins a condition to the ones before it: with OR for OR, with AND for any other operator. -/
def push (f : Filter) (op : Operator) (condition : Expr) : Filter :=
  match f.constraint with
  | none => ⟨some condition⟩
  | some before => ⟨some (.binary before (if op = .or then .or else .and) condition)⟩

/-- The tokens of the clause. -/
def tokens (f : Filter) : List Token :=
  match f.constraint with
  | none => []
  | some e => .sql "WHERE" :: e.tokens

end Filter

/-- How a condition joins the ones before it. -/
inductive Connective where
  | and | or
  deriving DecidableEq, Repr

/-- The operator of a connective. -/
def Connective.operator : Connective → Operator
  | and => .and
  | or => .or

/-! ## Selections -/

/-- An item of a list of columns: a column named by a text, or an expression. -/
inductive Selection where
  | named (text : String)
  | expr (e : Expr)

/-- The expression of an item; an asterisk stands for all columns. -/
def Selection.resolve : Selection → Except Error Expr
  | .expr e => .ok e
  | .named text => if text = "*" then .ok (.raw "*") else (Column.parse text).map .column

/-- The expressions of items. -/
def resolveAll (items : List Selection) : Except Error (List Expr) := items.mapM Selection.resolve

/-! ## Tables of statements -/

/-- The token of the table of a statement, if its name is one. -/
def tableTokens (name : String) : List Token :=
  match Table.named name with
  | .ok table => [.sql table.sql]
  | .error _ => []

/-- Fails where a text does not name a table. -/
def checkTable (name : String) : Except Error Unit := (Table.named name).map fun _ => ()

end ParamSql
