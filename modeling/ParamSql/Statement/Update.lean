import ParamSql.Statement.Basic

/-!
# UPDATE

* `UpdateTable` — an UPDATE that assigns nothing yet; it does not compile.
* `UpdateTable.set` — an UPDATE with its first assignment.
* `Update.add` — an UPDATE with a clause added.
-/

set_option autoImplicit false

namespace ParamSql

/-- An UPDATE that assigns nothing yet. -/
structure UpdateTable where
  table : String

/-- An UPDATE. -/
structure Update where
  table : String
  assignments : List Expr := []
  filter : Filter := {}
  error : Option Error := none

namespace UpdateTable

/-- The tokens of an UPDATE up to its table. -/
def headTokens (table : String) : List Token := .sql "UPDATE" :: tableTokens table

/-- An UPDATE that assigns nothing is never compiled. -/
def validate (_ : UpdateTable) : Except Error Unit := .error (.incomplete .assignment)

instance : Statement UpdateTable := ⟨fun s => headTokens s.table, validate⟩

end UpdateTable

/-- A step in the building of an UPDATE. -/
inductive Update.Clause where
  | set (column : String) (value : Operand)
  | filter (connective : Connective) (condition : Condition)

namespace Update

/-- Assigns an operand to a column. -/
def set (s : Update) (column : String) (value : Operand) : Update :=
  match Column.parse column with
  | .ok c => { s with assignments := s.assignments ++ [(Expr.column c).compare .eq value] }
  | .error e => { s with error := note s.error e }

/-- Restricts the rows that are changed. -/
def restrict (s : Update) (connective : Connective) (condition : Condition) : Update :=
  match condition.resolve with
  | .ok e => { s with filter := s.filter.push connective.operator e }
  | .error e => { s with error := note s.error e }

/-- An UPDATE with a clause added. -/
def add (s : Update) : Clause → Update
  | .set column value => s.set column value
  | .filter connective condition => s.restrict connective condition

/-- The tokens of an UPDATE. -/
def tokens (s : Update) : List Token :=
  UpdateTable.headTokens s.table
    ++ .sql "SET" :: commaSeparated (s.assignments.map Expr.tokens)
    ++ s.filter.tokens

/-- An UPDATE may be compiled if its table has a name and no step failed. -/
def validate (s : Update) : Except Error Unit := do
  checkTable s.table
  failWith s.error

instance : Statement Update := ⟨tokens, validate⟩

end Update

/-- An UPDATE with its first assignment. -/
def UpdateTable.set (s : UpdateTable) (column : String) (value : Operand) : Update :=
  Update.set ⟨s.table, [], {}, none⟩ column value

end ParamSql
