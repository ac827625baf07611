import Mathlib.Data.List.Forall2
import ParamSql.Proofs.Expr.Construction
import ParamSql.Proofs.Statement.Conditions
import ParamSql.Statement.Insert

/-!
# INSERT by its calls

The columns of an INSERT are read once, and those that make no sense are left out. What is inserted
is replaced by each step whose count of values is that of the columns left; any other step is
refused as a whole.

* `Column.toVariable_eq` — every column has a variable of its own.
* `Insert.Step.resolve` — what a step inserts into columns, or why it is refused.
* `InsertInto.columns_eq`, `Insert.ofSteps_eq` — what an INSERT holds after its columns, and after
  its steps.
* `Insert.source_ofSteps` — what is inserted is what the columns or one of the steps gave.
* `Insert.fills_holding` — whatever is inserted has one expression for each column.
* `Insert.validate_of_steps` — when an INSERT may be compiled, and that it has all of its columns
  then.
-/

set_option autoImplicit false

namespace ParamSql

/-! ## Variables of columns -/

/-- **A column always has its variable**, for the name made of it is valid. -/
theorem Column.toVariable_eq (c : Column) (id : VariableId) (default : Default) :
    c.toVariable id default = .ok ⟨id, c.argument, default⟩ :=
  Variable.named_of_isValid c.isValid_argument id default

/-- A required variable, named after a column. -/
def StandsFor (x : Variable) (c : Column) : Prop := x.name = c.argument ∧ x.default = .required

/-! ## Columns -/

namespace InsertInto

/-- One name gives a column with a variable for it, or an error. -/
theorem Header.add_eq (h : Header) (name : String) (id : VariableId) :
    let r := Column.parse name
    ∃ xs, List.Forall₂ StandsFor xs r.toOption.toList ∧
      h.add name id =
        ⟨h.columns ++ r.toOption.toList, h.params ++ xs, h.error.or (errorOf? r)⟩ := by
  unfold Header.add
  cases Column.parse name with
  | error e => exact ⟨[], .nil, by simp [Except.toOption, errorOf?, note]⟩
  | ok c =>
    refine ⟨[⟨id, c.argument, .required⟩], .cons ⟨rfl, rfl⟩ .nil, ?_⟩
    simp [Column.toVariable_eq, Except.toOption, errorOf?]

/-- Of several names those that make sense give columns with variables for them, and the earliest
that makes none gives the error. -/
theorem Header.addAll_eq (h : Header) (id : VariableId) (names : List String) :
    let rs := names.map Column.parse
    ∃ xs, List.Forall₂ StandsFor xs (collected rs) ∧
      h.addAll id names =
        ⟨h.columns ++ collected rs, h.params ++ xs, h.error.or (earliest? rs)⟩ := by
  induction names generalizing h id with
  | nil => exact ⟨[], .nil, by simp [Header.addAll, collected, earliest?]⟩
  | cons name names ih =>
    obtain ⟨xs, hxs, hone⟩ := h.add_eq name id
    obtain ⟨ys, hys, hrest⟩ := ih (h.add name id) (id.advance 1)
    intro rs
    refine ⟨xs ++ ys, ?_, ?_⟩
    · simp only [rs, List.map_cons, collected_cons]
      exact List.rel_append hxs hys
    · rw [Header.addAll, hrest, hone]
      simp only [rs, List.map_cons, collected_cons, earliest?_cons, List.append_assoc,
        Option.or_assoc]

/-- **What an INSERT holds after its columns**: those that make sense, with a parameter for each,
and the error of the first that makes none. -/
theorem columns_eq (table : String) (names : List String) (firstId : VariableId) :
    let rs := names.map Column.parse
    ∃ xs, List.Forall₂ StandsFor xs (collected rs) ∧
      InsertInto.columns ⟨table⟩ names firstId =
        ⟨table, collected rs, .parameters xs, earliest? rs⟩ := by
  obtain ⟨xs, hxs, hall⟩ := Header.addAll_eq {} firstId names
  refine ⟨xs, hxs, ?_⟩
  rw [InsertInto.columns, hall]
  rfl

end InsertInto

/-! ## Steps -/

/-- The number of expressions that are inserted, unless they are tokens. -/
def InsertSource.count? : InsertSource → Option Nat
  | .parameters xs => some xs.length
  | .values es => some es.length
  | .raw _ => none
  | .query s => some s.columns.length

/-- Whether there is an expression for each of some columns; of tokens this is not asked. -/
def InsertSource.Fills (source : InsertSource) (columns : List Column) : Prop :=
  (∃ tokens, source = .raw tokens) ∨ source.count? = some columns.length

namespace Insert

/-- The number of values that a step gives, unless they are tokens. -/
def Step.count? : Step → Option Nat
  | .values row => some row.length
  | .query select => some select.columns.length
  | .rawValues _ => none

/-- Why a step is refused where a number of columns have to be filled. -/
def Step.fault? (width : Nat) (step : Step) : Option Error :=
  step.count?.bind fun n => if n = width then none else some (.arityMismatch width n)

/-- The expression that a column takes of an operand. -/
def valueExpr (c : Column) : Operand → Expr
  | .expr e => e
  | .bind id default => .param ⟨id, c.argument, default⟩

/-- What a step inserts into columns if it is not refused. -/
def Step.source (columns : List Column) : Step → InsertSource
  | .values row => .values ((columns.zip row).map fun p => valueExpr p.1 p.2)
  | .query select => .query select
  | .rawValues tokens => .raw tokens

/-- What a step inserts into columns, or why it is refused. -/
def Step.resolve (columns : List Column) (step : Step) : Except Error InsertSource :=
  match step.fault? columns.length with
  | none => .ok (step.source columns)
  | some e => .error e

theorem Step.fault?_eq_none_iff {width : Nat} {step : Step} :
    step.fault? width = none ↔ ∀ n, step.count? = some n → n = width := by
  unfold fault?
  cases step.count? <;> simp

theorem Step.fault?_of_ne {width n : Nat} {step : Step} (hn : step.count? = some n)
    (hne : n ≠ width) : step.fault? width = some (.arityMismatch width n) := by
  rw [fault?, hn, Option.bind_some, if_neg hne]

@[simp] theorem errorOf?_resolve (columns : List Column) (step : Step) :
    errorOf? (step.resolve columns) = step.fault? columns.length := by
  unfold Step.resolve
  split
  · rename_i h
    exact h.symm
  · rename_i h
    exact h.symm

theorem Step.resolve_eq_ok {columns : List Column} {step : Step} {source : InsertSource}
    (h : step.resolve columns = .ok source) :
    step.fault? columns.length = none ∧ source = step.source columns := by
  unfold Step.resolve at h
  split at h
  · rename_i hfault
    exact ⟨hfault, (Except.ok.inj h).symm⟩
  · cases h

theorem valueOf_eq (c : Column) (o : Operand) : valueOf c o = .ok (valueExpr c o) := by
  cases o with
  | expr e => rfl
  | bind id default => rw [valueOf, Column.toVariable_eq]; rfl

/-- **A step replaces what is inserted, or notes why it is refused.** No value of a row can fail. -/
theorem step_eq (s : Insert) (st : Step) : s.step st = s.setSource (st.resolve s.columns) := by
  cases st with
  | values row =>
    have hvalues : ((s.columns.zip row).mapM fun p => valueOf p.1 p.2) =
        .ok ((s.columns.zip row).map fun p => valueExpr p.1 p.2) := by
      simp only [valueOf_eq]
      exact List.mapM_pure
    rw [step, Insert.values, hvalues]
    by_cases h : row.length = s.columns.length <;>
      simp [Step.resolve, Step.fault?, Step.count?, checkArity, h, bind, Except.bind, Step.source]
  | query select =>
    rw [step, Insert.query]
    by_cases h : select.columns.length = s.columns.length <;>
      simp [Step.resolve, Step.fault?, Step.count?, checkArity, h, bind, Except.bind, Step.source]
  | rawValues tokens => rfl

/-- A step with a wrong count of values leaves everything but the error as it was. -/
theorem step_of_ne (s : Insert) {st : Step} {n : Nat} (hn : st.count? = some n)
    (hne : n ≠ s.columns.length) :
    s.step st = { s with error := note s.error (.arityMismatch s.columns.length n) } := by
  rw [step_eq, Step.resolve, Step.fault?_of_ne hn hne]
  rfl

/-! ## Rows of steps -/

/-- The INSERT of columns after steps. -/
def ofSteps (table : String) (names : List String) (firstId : VariableId) (steps : List Step) :
    Insert :=
  steps.foldl step (InsertInto.columns ⟨table⟩ names firstId)

/-- An INSERT after steps with some results: it inserts what the last one of them gave, and before
there is any, the parameters. -/
def holding (table : String) (columns : List Column) (xs : List Variable) (error : Option Error)
    (rs : List (Except Error InsertSource)) : Insert :=
  ⟨table, columns, (collected rs).getLast?.getD (.parameters xs), error.or (earliest? rs)⟩

theorem step_holding (table : String) (columns : List Column) (xs : List Variable)
    (error : Option Error) (rs : List (Except Error InsertSource)) (st : Step) :
    (holding table columns xs error rs).step st =
      holding table columns xs error (rs ++ [st.resolve columns]) := by
  rw [step_eq, holding, holding, collected_concat, earliest?_concat]
  cases st.resolve columns with
  | ok source => simp [setSource, Except.toOption, errorOf?]
  | error e => simp [setSource, Except.toOption, errorOf?, note]

/-- **What an INSERT holds after its steps**: the columns that make sense, and what the last step
gave that was not refused. -/
theorem ofSteps_eq (table : String) (names : List String) (firstId : VariableId)
    (steps : List Step) :
    let parses := names.map Column.parse
    let columns := collected parses
    ∃ xs, List.Forall₂ StandsFor xs columns ∧
      ofSteps table names firstId steps =
        holding table columns xs (earliest? parses) (steps.map (Step.resolve columns)) := by
  intro parses columns
  obtain ⟨xs, hxs, hcolumns⟩ := InsertInto.columns_eq table names firstId
  refine ⟨xs, hxs, ?_⟩
  induction steps using List.reverseRecOn with
  | nil =>
    rw [ofSteps, List.foldl_nil, hcolumns]
    show _ = Insert.mk table columns _ ((earliest? parses).or none)
    rw [Option.or_none]
    rfl
  | append_singleton steps st ih =>
    rw [ofSteps, List.foldl_append, ← ofSteps, ih, List.map_append]
    exact step_holding table columns xs _ _ st

/-- What is true of what is inserted stays true, if it is true of all that a step gives. -/
theorem source_step {P : InsertSource → Prop} {s : Insert} (h : P s.source) {st : Step}
    (hst : ∀ columns, P (st.source columns)) : P (s.step st).source := by
  rw [step_eq]
  cases hr : st.resolve s.columns with
  | error e => exact h
  | ok source =>
    obtain ⟨-, rfl⟩ := Step.resolve_eq_ok hr
    exact hst s.columns

/-- **What is true of the parameters of columns and of all that the steps give is true of what is
inserted in the end.** -/
theorem source_ofSteps {P : InsertSource → Prop} (table : String) (names : List String)
    (firstId : VariableId) {steps : List Step}
    (hfirst : ∀ columns xs, List.Forall₂ StandsFor xs columns → P (.parameters xs))
    (hsteps : ∀ st ∈ steps, ∀ columns, P (st.source columns)) :
    P (ofSteps table names firstId steps).source := by
  obtain ⟨xs, hxs, hcolumns⟩ := InsertInto.columns_eq table names firstId
  have hstart : P (InsertInto.columns ⟨table⟩ names firstId).source := by
    rw [hcolumns]
    exact hfirst _ xs hxs
  exact List.foldlRecOn (motive := fun s : Insert => P s.source) steps step hstart
    fun _ hs st hst => source_step hs (hsteps st hst)

/-! ## What is inserted fits the columns -/

theorem fills_resolve {columns : List Column} {st : Step} {source : InsertSource}
    (h : st.resolve columns = .ok source) : source.Fills columns := by
  obtain ⟨hfault, rfl⟩ := Step.resolve_eq_ok h
  have hcount := Step.fault?_eq_none_iff.mp hfault
  cases st with
  | values row =>
    have hlength : row.length = columns.length := hcount _ rfl
    exact .inr (by simp [Step.source, InsertSource.count?, hlength])
  | query select =>
    have hlength : select.columns.length = columns.length := hcount _ rfl
    exact .inr (congrArg some hlength)
  | rawValues tokens => exact .inl ⟨tokens, rfl⟩

/-- **What is inserted fits the columns** at any time. -/
theorem fills_holding (table : String) {columns : List Column} {xs : List Variable}
    (hxs : List.Forall₂ StandsFor xs columns) (error : Option Error) (steps : List Step) :
    (holding table columns xs error (steps.map (Step.resolve columns))).source.Fills columns := by
  show InsertSource.Fills ((collected _).getLast?.getD _) columns
  cases hlast : (collected (steps.map (Step.resolve columns))).getLast? with
  | none => exact .inr (congrArg some hxs.length_eq)
  | some source =>
    obtain ⟨st, -, hst⟩ := List.mem_map.mp (mem_collected.mp (List.mem_of_getLast? hlast))
    exact fills_resolve hst

/-! ## Validation -/

/-- Of the errors of an INSERT that of its table comes first, then the one that was noted; then
there must be columns, and a query that it takes rows from must be complete. -/
theorem validate_eq (s : Insert) :
    s.validate =
      match Table.named s.table, s.error with
      | .error e, _ => .error e
      | .ok _, some e => .error e
      | .ok _, none =>
        if s.columns.isEmpty then .error (.incomplete .columns)
        else
          match s.source with
          | .query select => Statement.validate select
          | _ => .ok () := by
  unfold validate checkTable
  cases Table.named s.table with
  | error e => rfl
  | ok t => cases s.error <;> rfl

theorem findSome?_faults (columns : List Column) (steps : List Step) :
    earliest? (steps.map (Step.resolve columns)) =
      steps.findSome? (Step.fault? columns.length) := by
  simp only [earliest?, List.findSome?_map, Function.comp_def, errorOf?_resolve]

/-- **An INSERT by its calls.** It has the columns that make sense, with a variable for each, which
is never refused. A step with a wrong count of values changes nothing but the error, and that only
if there is none yet; so what is inserted always fits the columns. It may be compiled if its table
has a name, every name of a column makes sense, no step had a wrong count, there is a column, and
the query that it takes rows from, if any, is complete; else the first of these that fails gives the
error. Then its columns are all those that were named. -/
theorem validate_of_steps (table : String) (names : List String) (firstId : VariableId)
    (steps : List Step) :
    let parses := names.map Column.parse
    let columns := collected parses
    let s := ofSteps table names firstId steps
    (∀ (c : Column) (id : VariableId) (default : Default),
      c.toVariable id default = .ok ⟨id, c.argument, default⟩) ∧
    (s.columns = columns ∧
      (∃ xs, List.Forall₂ StandsFor xs columns ∧
        s.source = (collected (steps.map (Step.resolve columns))).getLast?.getD (.parameters xs)) ∧
      s.source.Fills columns) ∧
    (∀ (st : Step) (n : Nat), st.count? = some n → n ≠ columns.length →
      s.step st = { s with error := note s.error (.arityMismatch columns.length n) }) ∧
    (Statement.validate s =
      match Table.named table, earliest? parses, steps.findSome? (Step.fault? columns.length) with
      | .error e, _, _ => .error e
      | .ok _, some e, _ => .error e
      | .ok _, none, some e => .error e
      | .ok _, none, none =>
        if columns.isEmpty then .error (.incomplete .columns)
        else
          match s.source with
          | .query select => Statement.validate select
          | _ => .ok ()) ∧
    (Statement.validate s = .ok () → parses = s.columns.map .ok) := by
  intro parses columns s
  obtain ⟨xs, hxs, hs⟩ := ofSteps_eq table names firstId steps
  have hcolumns : s.columns = columns := congrArg Insert.columns hs
  have htable : s.table = table := congrArg Insert.table hs
  have herror : s.error = (earliest? parses).or (steps.findSome? (Step.fault? columns.length)) := by
    rw [← findSome?_faults]
    exact congrArg Insert.error hs
  have hvalidate : Statement.validate s = _ := validate_eq s
  rw [htable, herror, hcolumns] at hvalidate
  refine ⟨Column.toVariable_eq, ⟨hcolumns, ⟨xs, hxs, congrArg Insert.source hs⟩, ?_⟩,
    fun st n hn hne => ?_, ?_, fun hok => ?_⟩
  · have hfills := fills_holding table hxs (earliest? parses) steps
    rwa [← hs] at hfills
  · rw [← hcolumns] at hne ⊢
    exact step_of_ne s hn hne
  · rw [hvalidate]
    cases Table.named table with
    | error e => rfl
    | ok t =>
      cases earliest? parses with
      | some e => rfl
      | none => cases steps.findSome? (Step.fault? columns.length) <;> rfl
  · rw [hvalidate] at hok
    cases hparses : earliest? parses with
    | none => exact hcolumns ▸ eq_map_collected hparses
    | some e =>
      rw [hparses, Option.some_or] at hok
      cases hnamed : Table.named table <;> rw [hnamed] at hok <;> cases hok

/-- Two columns take the values given last, and then refuse a row without any. -/
theorem validate_twoColumns :
    let names := ["id", "users.name"]
    let steps := [Step.rawValues [], .values [.bind ⟨7⟩ .null, .expr (.raw "DEFAULT")]]
    let s := ofSteps "users" names ⟨1⟩ steps
    Statement.validate s = .ok () ∧ names.map Column.parse = s.columns.map .ok ∧
      s.step (.values []) = { s with error := some (.arityMismatch 2 0) } := by
  intro names steps s
  have hok : Statement.validate s = .ok () := rfl
  obtain ⟨-, -, hrefused, -, hcolumns⟩ := validate_of_steps "users" names ⟨1⟩ steps
  exact ⟨hok, hcolumns hok, hrefused (.values []) 0 rfl (by decide)⟩

/-- The error of a column comes before that of a row, which fits the columns that are left. -/
example :
    let s := ofSteps "users" ["id", ""] ⟨1⟩ [.values [], .values [.bind ⟨2⟩ .null]]
    Statement.validate s = .error (.invalidIdentifier "") ∧ s.source.count? = some 1 :=
  ⟨rfl, rfl⟩

end Insert

end ParamSql
