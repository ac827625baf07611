import ParamSql.Statement.Select

/-!
# INSERT

* `InsertInto` — an INSERT whose columns are not given yet.
* `InsertInto.columns` — the INSERT of columns, with a parameter for each of them.
* `Insert.values`, `Insert.rawValues`, `Insert.query` — what is inserted instead.
-/

set_option autoImplicit false

namespace ParamSql

/-- An INSERT whose columns are not given yet. -/
structure InsertInto where
  table : String

/-- What an INSERT inserts. -/
inductive InsertSource where
  | parameters (xs : List Variable)
  | values (es : List Expr)
  | raw (tokens : List Token)
  | query (s : Select)

/-- An INSERT of columns. -/
structure Insert where
  table : String
  columns : List Column
  source : InsertSource
  error : Option Error

/-- The variable that stands for the value of a column. -/
def Column.toVariable (c : Column) (id : VariableId) (default : Default) : Except Error Variable :=
  Variable.named c.argument id default

namespace InsertInto

/-- The tokens of an INSERT up to its table. -/
def headTokens (table : String) : List Token := .sql "INSERT INTO" :: tableTokens table

/-- An INSERT without columns is never compiled. -/
def validate (s : InsertInto) : Except Error Unit :=
  (checkTable s.table).bind fun _ => .error (.incomplete .columnList)

instance : Statement InsertInto := ⟨fun s => headTokens s.table, validate⟩

/-- The columns, variables and first error read so far from the names of columns. -/
structure Header where
  columns : List Column := []
  params : List Variable := []
  error : Option Error := none

/-- Reads the name of a column; its variable has the identity given. -/
def Header.add (h : Header) (name : String) (id : VariableId) : Header :=
  match Column.parse name with
  | .error e => { h with error := note h.error e }
  | .ok c =>
    let h := { h with columns := h.columns ++ [c] }
    match c.toVariable id .required with
    | .error e => { h with error := note h.error e }
    | .ok x => { h with params := h.params ++ [x] }

/-- Reads the names of columns; their variables have successive identities. -/
def Header.addAll (h : Header) (id : VariableId) : List String → Header
  | [] => h
  | name :: names => (h.add name id).addAll (id.advance 1) names

/-- The INSERT of columns, with a parameter for each of them. -/
def columns (s : InsertInto) (names : List String) (firstId : VariableId) : Insert :=
  let h : Header := ({} : Header).addAll firstId names
  ⟨s.table, h.columns, .parameters h.params, h.error⟩

end InsertInto

namespace Insert

/-- Fails where the count of values is not that of the columns. -/
def checkArity (s : Insert) (found : Nat) : Except Error Unit :=
  if found = s.columns.length then .ok () else .error (.arityMismatch s.columns.length found)

/-- What a column takes of an operand: an expression as it is, data as a variable. -/
def valueOf (c : Column) : Operand → Except Error Expr
  | .expr e => .ok e
  | .bind id default => (c.toVariable id default).map .param

/-- Replaces what is inserted, or notes why it cannot be. -/
def setSource (s : Insert) : Except Error InsertSource → Insert
  | .ok source => { s with source := source }
  | .error e => { s with error := note s.error e }

/-- Inserts a row, one operand for each column. -/
def values (s : Insert) (row : List Operand) : Insert :=
  s.setSource do
    s.checkArity row.length
    let es ← (s.columns.zip row).mapM fun p => valueOf p.1 p.2
    .ok (.values es)

/-- Inserts the rows of a query, one selected value for each column. -/
def query (s : Insert) (select : Select) : Insert :=
  s.setSource do
    s.checkArity select.columns.length
    .ok (.query select)

/-- Inserts tokens as they are. -/
def rawValues (s : Insert) (tokens : List Token) : Insert := { s with source := .raw tokens }

/-- A step in the building of an INSERT. -/
inductive Step where
  | values (row : List Operand)
  | query (select : Select)
  | rawValues (tokens : List Token)

/-- An INSERT after a step. -/
def step (s : Insert) : Step → Insert
  | .values row => s.values row
  | .query select => s.query select
  | .rawValues tokens => s.rawValues tokens

/-! ## Tokens -/

/-- Tokens in parentheses. -/
def parenthesized (tokens : List Token) : List Token :=
  Token.openParen :: tokens ++ [Token.closeParen]

/-- The tokens of what is inserted. -/
def sourceTokens : InsertSource → List Token
  | .parameters xs =>
    .sql "VALUES" :: parenthesized (commaSeparated (xs.map fun x => [.param x]))
  | .values es => .sql "VALUES" :: parenthesized (commaSeparated (es.map Expr.tokens))
  | .raw tokens => .sql "VALUES" :: parenthesized tokens
  | .query s => s.tokens

/-- The tokens of an INSERT. -/
def tokens (s : Insert) : List Token :=
  InsertInto.headTokens s.table
    ++ parenthesized (commaSeparated (s.columns.map fun c => [.sql c.sql]))
    ++ sourceTokens s.source

/-- An INSERT may be compiled if its table has a name, no step failed, there are columns, and the
query that it takes its rows from may be compiled. -/
def validate (s : Insert) : Except Error Unit := do
  checkTable s.table
  failWith s.error
  if s.columns.isEmpty then .error (.incomplete .columns)
  else
    match s.source with
    | .query select => select.validate
    | _ => .ok ()

instance : Statement Insert := ⟨tokens, validate⟩

end Insert

end ParamSql
