import ParamSql.Error
import ParamSql.Name

/-!
# Tables and columns

* `Table.named`, `Column.named` — any text but the empty one is a name.
* `Column.parse` — a column whose table may stand before the first dot.
* `Table.sql`, `Column.sql` — the delimited identifiers.
* `Column.argument` — the parameter name made of a column.
-/

set_option autoImplicit false

namespace ParamSql

/-- A table. -/
structure Table where
  name : String
  name_ne : name ≠ ""
  deriving DecidableEq

namespace Table

/-- The table of a name, which must not be empty. -/
def named (name : String) : Except Error Table :=
  if h : name = "" then .error (.invalidIdentifier name) else .ok ⟨name, h⟩

/-- A table in SQL. -/
def sql (t : Table) : String := Text.delimited t.name

end Table

/-- A column, of a given table or of the table at hand. -/
structure Column where
  table : Option Table
  name : String
  name_ne : name ≠ ""
  deriving DecidableEq

namespace Column

/-- The column of a name, which must not be empty, in a table. -/
def of (table : Option Table) (name : String) : Except Error Column :=
  if h : name = "" then .error (.invalidIdentifier name) else .ok ⟨table, name, h⟩

/-- The column of a name in the table at hand. -/
def named (name : String) : Except Error Column := of none name

/-- The column that a text names: what stands before the first dot names the table. -/
def parse (text : String) : Except Error Column :=
  match text.toList.span (· != '.') with
  | (_, []) => named text
  | (table, _ :: name) => do
    let table ← Table.named (String.ofList table)
    of (some table) (String.ofList name)

/-- A column in SQL. -/
def sql (c : Column) : String :=
  match c.table with
  | none => Text.delimited c.name
  | some t => t.sql ++ "." ++ Text.delimited c.name

/-- The parameter name made of a column. -/
def argument (c : Column) : String :=
  match c.table with
  | none => Name.clean c.name
  | some t => Name.clean t.name ++ "_" ++ Name.clean c.name

end Column

end ParamSql
