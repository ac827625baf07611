import ParamSql.Statement.Basic

/-!
# DELETE

* `DeleteFrom` — a DELETE without a condition; it would take every row and does not compile.
* `DeleteFrom.restrict` — a DELETE with its first condition.
* `Delete.restrict` — a DELETE with a condition added.
-/

set_option autoImplicit false

namespace ParamSql

/-- A DELETE without a condition. -/
structure DeleteFrom where
  table : String

/-- A DELETE that was given a condition. -/
structure Delete where
  table : String
  filter : Filter := {}
  error : Option Error := none

namespace DeleteFrom

/-- The tokens of a DELETE up to its table. -/
def headTokens (table : String) : List Token := .sql "DELETE FROM" :: tableTokens table

/-- A DELETE without a condition is never compiled. -/
def validate (_ : DeleteFrom) : Except Error Unit := .error (.incomplete .condition)

instance : Statement DeleteFrom := ⟨fun s => headTokens s.table, validate⟩

end DeleteFrom

namespace Delete

/-- Restricts the rows that are deleted. -/
def restrict (s : Delete) (connective : Connective) (condition : Condition) : Delete :=
  match condition.resolve with
  | .ok e => { s with filter := s.filter.push connective.operator e }
  | .error e => { s with error := note s.error e }

/-- The tokens of a DELETE. -/
def tokens (s : Delete) : List Token := DeleteFrom.headTokens s.table ++ s.filter.tokens

/-- A DELETE may be compiled if its table has a name and no step failed. -/
def validate (s : Delete) : Except Error Unit := do
  checkTable s.table
  failWith s.error

instance : Statement Delete := ⟨tokens, validate⟩

end Delete

/-- A DELETE with its first condition. -/
def DeleteFrom.restrict (s : DeleteFrom) (condition : Condition) : Delete :=
  Delete.restrict ⟨s.table, {}, none⟩ .and condition

end ParamSql
