import ParamSql.Statement.Basic

/-!
# SELECT

* `Select.add` — a SELECT with a clause added.
* `Select.ofClauses` — the SELECT of a list of clauses.
-/

set_option autoImplicit false

namespace ParamSql

/-- The direction of an order. -/
inductive Direction where
  | asc | desc
  deriving DecidableEq, Repr

/-- A direction in SQL. -/
def Direction.sql : Direction → String
  | asc => "ASC"
  | desc => "DESC"

/-- A SELECT. -/
structure Select where
  columns : List Expr := []
  isDistinct : Bool := false
  table : Option Table := none
  filter : Filter := {}
  grouping : List Expr := []
  ordering : List (Expr × Direction) := []
  limit : Option UInt64 := none
  offset : Option UInt64 := none
  error : Option Error := none

/-- A step in the building of a SELECT. -/
inductive Select.Clause where
  | columns (items : List Selection)
  | table (name : String)
  | distinct
  | filter (connective : Connective) (condition : Condition)
  | filterAny (conditions : List Condition)
  | grouping (items : List Selection)
  | ordering (items : List Selection) (direction : Direction)
  | limit (n : UInt64)
  | offset (n : UInt64)

namespace Select

/-- Changes a SELECT by a result, or notes why there is none. -/
def apply {α : Type} (s : Select) (result : Except Error α) (change : α → Select) : Select :=
  match result with
  | .ok a => change a
  | .error e => { s with error := note s.error e }

/-- The alternatives of a group of conditions as one expression. -/
def anyOf (conditions : List Condition) : Except Error Expr := do
  let es ← conditions.mapM Condition.resolve
  Expr.group .or es

/-- A SELECT with a clause added. -/
def add (s : Select) : Clause → Select
  | .columns items =>
    s.apply (resolveAll items) fun es => { s with columns := s.columns ++ es }
  | .table name => s.apply (Table.named name) fun t => { s with table := some t }
  | .distinct => { s with isDistinct := true }
  | .filter connective condition =>
    s.apply condition.resolve fun e => { s with filter := s.filter.push connective.operator e }
  | .filterAny conditions =>
    s.apply (anyOf conditions) fun e => { s with filter := s.filter.push .and e }
  | .grouping items =>
    s.apply (resolveAll items) fun es => { s with grouping := s.grouping ++ es }
  | .ordering items direction =>
    s.apply (resolveAll items) fun es =>
      { s with ordering := s.ordering ++ es.map fun e => (e, direction) }
  | .limit n => { s with limit := some n }
  | .offset n => { s with offset := some n }

/-- The SELECT of a list of clauses. -/
def ofClauses (clauses : List Clause) : Select := clauses.foldl add {}

/-! ## Tokens -/

/-- The tokens of the order: a comma or, at the start, a keyword before each item. -/
def orderingTokens (lead : Token) : List (Expr × Direction) → List Token
  | [] => []
  | (e, direction) :: rest =>
    lead :: e.tokens ++ .sql direction.sql :: orderingTokens Token.comma rest

/-- The tokens of a limit or an offset. -/
def countTokens (keyword : String) : Option UInt64 → List Token
  | none => []
  | some n => [.sql keyword, .sql (toString n.toNat)]

/-- The tokens of a SELECT. -/
def tokens (s : Select) : List Token :=
  .sql "SELECT" :: (if s.isDistinct then [.sql "DISTINCT"] else [])
    ++ commaSeparated (s.columns.map Expr.tokens)
    ++ (match s.table with
      | none => []
      | some t => [.sql "FROM", .sql t.sql])
    ++ s.filter.tokens
    ++ (if s.grouping.isEmpty then []
      else .sql "GROUP BY" :: commaSeparated (s.grouping.map Expr.tokens))
    ++ orderingTokens (.sql "ORDER BY") s.ordering
    ++ countTokens "LIMIT" s.limit
    ++ countTokens "OFFSET" s.offset

/-- A SELECT may be compiled if no step failed and something is selected. -/
def validate (s : Select) : Except Error Unit :=
  match s.error with
  | some e => .error e
  | none => if s.columns.isEmpty then .error (.incomplete .selection) else .ok ()

instance : Statement Select := ⟨tokens, validate⟩

end Select

end ParamSql
