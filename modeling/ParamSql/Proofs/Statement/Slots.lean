import ParamSql.Proofs.Query.Arguments
import ParamSql.Proofs.Query.Numbering
import ParamSql.Proofs.Statement.Sources

/-!
# The slots of the columns of an INSERT

An INSERT asks for the value of each of its columns under the name made of the column. The names made
of two columns can be one name, and then both columns share a parameter.

* `Sighting.length_eraseDups_eq_iff`, `parameters_of_nodup`, `positions_of_nodup`,
  `conflicts_of_nodup` — variables of distinct names each have their own parameter, in order.
* `fill_defaults` — what parameters with defaults get where there are no keywords.
* `Insert.rowTokens`, `Insert.rowFragments` — an INSERT of a variable for each column, as tokens and
  as the fragments of its text.
* `Insert.bound_of_columns` — when every column of an INSERT has its own parameter, and that it gets
  the value at its place then.
-/

set_option autoImplicit false

namespace ParamSql

open Sighting

/-! ## Variables of distinct names -/

namespace Sighting

section Names

variable {α : Type}

theorem nodup_append_singleton {as : List α} {a : α} :
    (as ++ [a]).Nodup ↔ a ∉ as ∧ as.Nodup := List.nodup_append_comm.trans List.nodup_cons

variable [DecidableEq α]

theorem length_eraseDups_le (as : List α) : as.eraseDups.length ≤ as.length := by
  induction as using List.reverseRecOn with
  | nil => exact Nat.le_refl 0
  | append_singleton as a ih =>
    rw [eraseDups_concat]
    split
    · simp only [List.length_append, List.length_singleton]
      omega
    · simpa using ih

/-- Dropping repetitions drops something unless there is none. -/
theorem length_eraseDups_eq_iff {as : List α} : as.eraseDups.length = as.length ↔ as.Nodup := by
  induction as using List.reverseRecOn with
  | nil => simp
  | append_singleton as a ih =>
    have hle := length_eraseDups_le as
    rw [eraseDups_concat, nodup_append_singleton, ← ih]
    by_cases ha : a ∈ as
    · rw [if_pos ha, List.length_append, List.length_singleton]
      exact ⟨fun h => by omega, fun h => absurd ha h.1⟩
    · simp [ha]

theorem eraseDups_of_nodup {as : List α} (h : as.Nodup) : as.eraseDups = as := by
  induction as using List.reverseRecOn with
  | nil => rfl
  | append_singleton as a ih =>
    rw [nodup_append_singleton] at h
    rw [eraseDups_concat, if_neg h.1, ih h.2]

end Names

variable {xs : List Variable}

theorem length_parameters_eq_iff :
    (parameters xs).length = xs.length ↔ (xs.map (·.name)).Nodup := by
  rw [length_parameters, distinctNames, ← length_eraseDups_eq_iff, List.length_map]

theorem length_parameters_lt (h : ¬(xs.map (·.name)).Nodup) : (parameters xs).length < xs.length := by
  have hle := length_eraseDups_le (xs.map (·.name))
  have hne := mt length_parameters_eq_iff.mp h
  rw [List.length_map] at hle
  rw [length_parameters] at hne ⊢
  exact Nat.lt_of_le_of_ne hle hne

/-- Every parameter is one that a variable asks for. -/
theorem exists_of_mem_parameters {p : Parameter} (h : p ∈ parameters xs) :
    ∃ x ∈ xs, x.parameter = p := by
  obtain ⟨name, -, hp⟩ := List.mem_filterMap.mp h
  obtain ⟨x, hx, rfl⟩ := Option.map_eq_some_iff.mp hp
  exact ⟨x, mem_of_first? hx, rfl⟩

theorem distinctNames_of_nodup (h : (xs.map (·.name)).Nodup) :
    distinctNames xs = xs.map (·.name) := eraseDups_of_nodup h

/-- A variable after others of other names is a new one. -/
theorem not_mem_of_nodup_concat {x : Variable} (h : ((xs ++ [x]).map (·.name)).Nodup) :
    (xs.map (·.name)).Nodup ∧ x.name ∉ distinctNames xs := by
  rw [List.map_append, List.map_singleton, nodup_append_singleton] at h
  exact ⟨h.2, fun hx => h.1 (List.mem_eraseDups.mp hx)⟩

/-- **Variables of distinct names each have their own parameter**, in order. -/
theorem parameters_of_nodup (h : (xs.map (·.name)).Nodup) :
    parameters xs = xs.map (·.parameter) := by
  induction xs using List.reverseRecOn with
  | nil => rfl
  | append_singleton xs x ih =>
    obtain ⟨hxs, hx⟩ := not_mem_of_nodup_concat h
    rw [parameters_concat, if_neg hx, ih hxs, List.map_append]
    rfl

/-- Variables of distinct names are placed one after the other. -/
theorem positions_of_nodup (h : (xs.map (·.name)).Nodup) :
    xs.map (fun x => position xs x.name) = List.range' 1 xs.length := by
  refine List.ext_getElem (by simp) fun i hi _ => ?_
  have hidx := h.idxOf_getElem i (by simpa using hi)
  rw [List.getElem_map] at hidx
  rw [List.getElem_map, position, distinctNames_of_nodup h, hidx, List.getElem_range']
  omega

/-- Variables of distinct names are at odds with nothing. -/
theorem conflicts_of_nodup (h : (xs.map (·.name)).Nodup) : conflicts xs = [] := by
  induction xs using List.reverseRecOn with
  | nil => rfl
  | append_singleton xs x ih =>
    obtain ⟨hxs, hx⟩ := not_mem_of_nodup_concat h
    rw [conflicts_concat, conflict?_concat_of_not_mem hx, ih hxs]
    rfl

end Sighting

/-! ## Calls with values alone, and with none -/

/-- Parameters that all have a default get it where no keyword is given. -/
theorem fill_defaults :
    ∀ {ps : List Parameter} {vs : List Value}, ps.map (·.default) = vs.map some →
      fill ps [] = .ok (vs, [])
  | [], [], _ => rfl
  | p :: ps, v :: vs, h => by
    rw [List.map_cons, List.map_cons, List.cons.injEq] at h
    rw [fill, takeNamed?, h.1]
    simp only [fill_defaults h.2]
    rfl

/-- A call with as many values as there are parameters binds them. -/
theorem call_of_length_eq {q : CompiledQuery} {row : List Value}
    (h : row.length = q.parameters.length) :
    q.call (.ofValues row) = .ok ⟨q.text, row, q.parameters.map (·.typeHint)⟩ := by
  simp [CompiledQuery.call, Args.ofValues, h, fill]

/-- A call without arguments binds the defaults. -/
theorem call_defaults {q : CompiledQuery} {row : List Value}
    (h : q.parameters.map (·.default) = row.map some) :
    q.call {} = .ok ⟨q.text, row, q.parameters.map (·.typeHint)⟩ := by
  simp [CompiledQuery.call, fill_defaults h]

theorem map_default_eq {ps : List Parameter} (h : ∀ p ∈ ps, p.default.isSome = true) :
    ps.map (·.default) = (ps.filterMap (·.default)).map some := by
  induction ps with
  | nil => rfl
  | cons p ps ih =>
    rw [List.forall_mem_cons] at h
    obtain ⟨v, hv⟩ := Option.isSome_iff_exists.mp h.1
    rw [List.map_cons, List.filterMap_cons_some hv, List.map_cons, hv, ih h.2]

/-- Where all parameters have defaults, a call without arguments binds one value for each. -/
theorem exists_call_defaults {q : CompiledQuery}
    (h : ∀ p ∈ q.parameters, p.default.isSome = true) :
    ∃ b, q.call {} = .ok b ∧ b.args.length = q.parameters.length := by
  refine ⟨_, call_defaults (map_default_eq h), ?_⟩
  simpa using (congrArg List.length (map_default_eq h)).symm

/-! ## An INSERT of variables -/

namespace Insert

/-- The tokens of an INSERT of one variable for each column. -/
def rowTokens (t : Table) (columns : List Column) (xs : List Variable) : List Token :=
  [.sql "INSERT INTO", .sql t.sql]
    ++ parenthesized (commaSeparated (columns.map fun c => [.sql c.sql]))
    ++ .sql "VALUES" :: parenthesized (commaSeparated (xs.map fun x => [.param x]))

/-- The fragments of an INSERT that writes the placeholder of its own position for each column. -/
def rowFragments (style : PlaceholderStyle) (t : Table) (columns : List Column) : List String :=
  ["INSERT INTO", t.sql, "("] ++ (columns.map (·.sql)).intersperse ","
    ++ [")", "VALUES", "("]
    ++ ((List.range' 1 columns.length).map (placeholder style)).intersperse "," ++ [")"]

theorem map_commaSeparated {α : Type} (g : Token → String) (f : α → Token) :
    ∀ as : List α, (commaSeparated (as.map fun a => [f a])).map g =
      (as.map fun a => g (f a)).intersperse (g Token.comma)
  | [] => rfl
  | [_] => rfl
  | a :: b :: as => by
    have ih := map_commaSeparated g f (b :: as)
    simp only [List.map_cons] at ih
    simp only [List.map_cons, commaSeparated_cons_cons, ih, List.intersperse_cons_cons,
      List.singleton_append]

theorem params_commaSeparated {α : Type} (f : α → Token) :
    ∀ as : List α, Token.params (commaSeparated (as.map fun a => [f a])) =
      Token.params (as.map f)
  | [] => rfl
  | [_] => rfl
  | a :: b :: as => by
    have ih := params_commaSeparated f (b :: as)
    simp only [List.map_cons] at ih
    simp only [List.map_cons, commaSeparated_cons_cons, Token.params_append, Token.comma,
      Token.params_sql, ih]
    rw [← Token.params_append, List.singleton_append]

theorem params_map_sql {α : Type} (f : α → String) (as : List α) :
    Token.params (as.map fun a => .sql (f a)) = [] := by
  simp [Token.params, List.filterMap_map, Function.comp_def, Token.asParam?]

theorem params_rowTokens (t : Table) (columns : List Column) (xs : List Variable) :
    Token.params (rowTokens t columns xs) = xs := by
  simp [rowTokens, parenthesized, params_commaSeparated, params_map_sql, params_map_param,
    Token.openParen, Token.closeParen]

/-- **The fragments of an INSERT of variables of distinct names** count its columns through. -/
theorem fragments_rowTokens (style : PlaceholderStyle) (t : Table) {columns : List Column}
    {xs : List Variable} (hlength : xs.length = columns.length) (h : (xs.map (·.name)).Nodup) :
    (rowTokens t columns xs).map (fragment style (position xs)) =
      rowFragments style t columns := by
  have hplaces : xs.map (fun x => placeholder style (position xs x.name)) =
      (List.range' 1 columns.length).map (placeholder style) := by
    rw [← hlength, ← positions_of_nodup h, List.map_map]
    rfl
  simp [rowTokens, rowFragments, parenthesized, map_commaSeparated, fragment, hplaces,
    Token.openParen, Token.closeParen, Token.comma]

theorem compile_rowTokens (options : CompileOptions) (t : Table) {columns : List Column}
    {xs : List Variable} (hlength : xs.length = columns.length) (h : (xs.map (·.name)).Nodup) :
    compile (rowTokens t columns xs) options =
      ⟨joinFragments (rowFragments options.placeholder t columns), xs.map (·.parameter), []⟩ := by
  have htext := compile_text (rowTokens t columns xs) options
  have hparameters := compile_parameters (rowTokens t columns xs) options
  have hconflicts := compile_conflicts (rowTokens t columns xs) options
  rw [params_rowTokens] at htext hparameters hconflicts
  rw [fragments_rowTokens options.placeholder t hlength h] at htext
  rw [parameters_of_nodup h] at hparameters
  rw [conflicts_of_nodup h] at hconflicts
  exact CompiledQuery.mk.injEq .. ▸ ⟨htext, hparameters, hconflicts⟩

/-- The variables that a row of data is bound to, one for each column. -/
def rowVariables (columns : List Column) (data : List (VariableId × Value)) : List Variable :=
  (columns.zip data).map fun p => ⟨p.2.1, p.1.argument, .ofValue p.2.2⟩

section Rows

variable {columns : List Column} {data : List (VariableId × Value)}

theorem names_rowVariables (h : data.length = columns.length) :
    (rowVariables columns data).map (·.name) = columns.map (·.argument) := by
  have hfst : (columns.zip data).map Prod.fst = columns := List.map_fst_zip (by omega)
  rw [rowVariables, List.map_map]
  conv_rhs => rw [← hfst, List.map_map]
  rfl

theorem length_rowVariables (h : data.length = columns.length) :
    (rowVariables columns data).length = columns.length := by
  simpa using congrArg List.length (names_rowVariables h)

theorem defaults_rowVariables (h : data.length = columns.length) :
    (rowVariables columns data).map (·.parameter.default) = (data.map (·.2)).map some := by
  have hsnd : (columns.zip data).map Prod.snd = data := List.map_snd_zip (by omega)
  rw [rowVariables, List.map_map, List.map_map]
  conv_rhs => rw [← hsnd, List.map_map]
  exact List.map_congr_left fun p _ => Variable.default_parameter_ofValue _ _ _

/-- Data for columns whose names are distinct are bound each at its own place. -/
theorem call_rowVariables_of_nodup (options : CompileOptions) (t : Table)
    (h : data.length = columns.length) (hnodup : (columns.map (·.argument)).Nodup) :
    ∃ b, (compile (rowTokens t columns (rowVariables columns data)) options).call {} = .ok b ∧
      b.sql = joinFragments (rowFragments options.placeholder t columns) ∧
      b.args = data.map (·.2) := by
  rw [← names_rowVariables h] at hnodup
  rw [compile_rowTokens options t (length_rowVariables h) hnodup]
  refine ⟨_, call_defaults ?_, rfl, rfl⟩
  rw [← defaults_rowVariables h, List.map_map]
  rfl

/-- Data for columns two of which share a name are not all bound. -/
theorem call_rowVariables_of_not_nodup (options : CompileOptions) (t : Table)
    (h : data.length = columns.length) (hnodup : ¬(columns.map (·.argument)).Nodup) :
    ∃ b, (compile (rowTokens t columns (rowVariables columns data)) options).call {} = .ok b ∧
      b.args.length < columns.length := by
  rw [← names_rowVariables h] at hnodup
  have hparameters := compile_parameters (rowTokens t columns (rowVariables columns data)) options
  rw [params_rowTokens] at hparameters
  obtain ⟨b, hb, hlength⟩ := exists_call_defaults
    (q := compile (rowTokens t columns (rowVariables columns data)) options) (by
      rw [hparameters]
      intro p hp
      obtain ⟨x, hx, rfl⟩ := exists_of_mem_parameters hp
      obtain ⟨d, -, rfl⟩ := List.mem_map.mp hx
      rw [Variable.default_parameter_ofValue]
      rfl)
  refine ⟨b, hb, ?_⟩
  rw [hlength, hparameters, ← length_rowVariables h]
  exact length_parameters_lt hnodup

/-- A row of data, one for each column, replaces what is inserted by its variables. -/
theorem values_data (table : String) (source : InsertSource) (h : data.length = columns.length) :
    values ⟨table, columns, source, none⟩ (data.map fun d => .bind d.1 (.ofValue d.2)) =
      ⟨table, columns, .values ((rowVariables columns data).map .param), none⟩ := by
  have hstep := step_eq ⟨table, columns, source, none⟩
    (.values (data.map fun d => .bind d.1 (.ofValue d.2)))
  rw [step] at hstep
  rw [hstep]
  simp [Step.resolve, Step.fault?, Step.count?, h, Step.source, setSource, rowVariables,
    List.zip_map_right, valueExpr]

end Rows

theorem columns_of_parses (table : String) {names : List String} {columns : List Column}
    (firstId : VariableId) (h : names.map Column.parse = columns.map .ok) :
    ∃ xs, List.Forall₂ StandsFor xs columns ∧
      InsertInto.columns ⟨table⟩ names firstId = ⟨table, columns, .parameters xs, none⟩ := by
  have hnone : earliest? (names.map Column.parse) = none := by
    rw [earliest?_eq_none_iff, h]
    simp
  have hcollected : collected (names.map Column.parse) = columns := by
    have hall := eq_map_collected hnone
    rw [h] at hall
    rw [h]
    exact (List.map_injective_iff.mpr (fun _ _ => Except.ok.inj) hall).symm
  obtain ⟨xs, hxs, hcolumns⟩ := InsertInto.columns_eq table names firstId
  rw [hcollected] at hxs
  rw [hnone, hcollected] at hcolumns
  exact ⟨xs, hxs, hcolumns⟩

theorem names_of_standsFor {xs : List Variable} {columns : List Column}
    (h : List.Forall₂ StandsFor xs columns) : xs.map (·.name) = columns.map (·.argument) := by
  induction h with
  | nil => rfl
  | cons hx _ ih => rw [List.map_cons, List.map_cons, hx.1, ih]

/-- An INSERT of variables compiles to their row. -/
theorem compile_row {table : String} (htable : table ≠ "") {columns : List Column}
    (hcolumns : columns ≠ []) (options : CompileOptions) {source : InsertSource}
    {xs : List Variable} (hsource : source = .parameters xs ∨ source = .values (xs.map .param)) :
    Statement.compileWith (Insert.mk table columns source none) options =
      .ok (compile (rowTokens ⟨table, htable⟩ columns xs) options) := by
  have htokens : (Insert.mk table columns source none).tokens =
      rowTokens ⟨table, htable⟩ columns xs := by
    rcases hsource with rfl | rfl <;>
      simp [tokens, InsertInto.headTokens, tableTokens, Table.named, htable, rowTokens,
        sourceTokens, Function.comp_def, Expr.tokens]
  have hvalid : (Insert.mk table columns source none).validate = .ok () := by
    rw [validate_eq]
    rcases hsource with rfl | rfl <;> simp [Table.named, htable, hcolumns]
  show (validate _).map _ = _
  rw [hvalid, ← htokens]
  rfl

/-- **When the columns of an INSERT keep apart.** An INSERT of columns compiles. If the names made of
the columns are distinct, it has one parameter for each column, in order, its text writes the
placeholder of the place of each column, a row of as many values is bound as it is, and so is a row
of data by a call without arguments. Else it has fewer parameters than columns, refuses every row of
as many values as columns, and binds fewer data than it was given. -/
theorem bound_of_columns (table : String) (htable : table ≠ "") (names : List String)
    (hnames : names ≠ []) (columns : List Column)
    (hparse : names.map Column.parse = columns.map .ok) (firstId : VariableId)
    (options : CompileOptions) :
    let s := InsertInto.columns ⟨table⟩ names firstId
    let bindings := fun data : List (VariableId × Value) =>
      data.map fun d => Operand.bind d.1 (.ofValue d.2)
    ∃ q, Statement.compileWith s options = .ok q ∧
      if (columns.map (·.argument)).Nodup then
        q.parameters.map (·.name) = columns.map (·.argument) ∧
        q.text = joinFragments (rowFragments options.placeholder ⟨table, htable⟩ columns) ∧
        (∀ row : List Value, row.length = columns.length →
          ∃ b, q.call (.ofValues row) = .ok b ∧ b.sql = q.text ∧ b.args = row) ∧
        ∀ data : List (VariableId × Value), data.length = columns.length →
          ∃ r b, Statement.compileWith (s.values (bindings data)) options = .ok r ∧
            r.call {} = .ok b ∧ b.sql = q.text ∧ b.args = data.map (·.2)
      else
        q.parameters.length < columns.length ∧
        (∀ row : List Value, row.length = columns.length → q.call (.ofValues row) =
          .error (.tooManyArguments q.parameters.length columns.length)) ∧
        ∀ data : List (VariableId × Value), data.length = columns.length →
          ∃ r b, Statement.compileWith (s.values (bindings data)) options = .ok r ∧
            r.call {} = .ok b ∧ b.args.length < columns.length := by
  intro s bindings
  obtain ⟨xs, hxs, hs⟩ := columns_of_parses table firstId hparse
  have hxsnames : xs.map (·.name) = columns.map (·.argument) := names_of_standsFor hxs
  have hlength : xs.length = columns.length := hxs.length_eq
  have hcolumns : columns ≠ [] := by
    rintro rfl
    exact hnames (List.map_eq_nil_iff.mp hparse)
  have hq : Statement.compileWith (Insert.mk table columns (.parameters xs) none) options = _ :=
    compile_row htable hcolumns options (.inl rfl)
  -- the data of any row take the place of the variables
  have hdata : ∀ data : List (VariableId × Value), data.length = columns.length →
      Statement.compileWith (s.values (bindings data)) options =
        .ok (compile (rowTokens ⟨table, htable⟩ columns (rowVariables columns data)) options) := by
    intro data h
    rw [show s.values (bindings data) = _ from hs ▸ values_data table (.parameters xs) h]
    exact compile_row htable hcolumns options (.inr rfl)
  refine ⟨compile (rowTokens ⟨table, htable⟩ columns xs) options, ?_, ?_⟩
  · rw [← hq, ← hs]
  split
  · rename_i hnodup
    rw [compile_rowTokens options ⟨table, htable⟩ hlength (hxsnames ▸ hnodup)]
    refine ⟨by simpa [Function.comp_def] using hxsnames, rfl, fun row hrow => ?_,
      fun data h => ?_⟩
    · exact ⟨_, call_of_length_eq (by simp [hrow, hlength]), rfl, rfl⟩
    · obtain ⟨b, hb⟩ := call_rowVariables_of_nodup options ⟨table, htable⟩ h hnodup
      exact ⟨_, b, hdata data h, hb⟩
  · rename_i hnodup
    have hparameters := compile_parameters (rowTokens ⟨table, htable⟩ columns xs) options
    rw [params_rowTokens] at hparameters
    have hfewer : (compile (rowTokens ⟨table, htable⟩ columns xs) options).parameters.length <
        columns.length := by
      rw [hparameters, ← hlength]
      exact length_parameters_lt (hxsnames ▸ hnodup)
    refine ⟨hfewer, fun row hrow => ?_, fun data h => ?_⟩
    · rw [CompiledQuery.call, if_pos (by simpa [Args.ofValues, hrow] using hfewer)]
      simp [Args.ofValues, hrow]
    · obtain ⟨b, hb⟩ := call_rowVariables_of_not_nodup options ⟨table, htable⟩ h hnodup
      exact ⟨_, b, hdata data h, hb⟩

/-- A column of the table at hand and one of a table that is named have a parameter each. -/
theorem bound_twoColumns :
    let names := ["id", "users.name"]
    let s := InsertInto.columns ⟨"users"⟩ names ⟨1⟩
    let columns : List Column :=
      [⟨none, "id", by decide⟩, ⟨some ⟨"users", by decide⟩, "name", by decide⟩]
    "users" ≠ "" ∧ names ≠ [] ∧ names.map Column.parse = columns.map .ok ∧
      ∃ q, Statement.compileWith s ⟨.numbered⟩ = .ok q ∧
        q.text = "INSERT INTO \"users\" (\"id\", \"users\".\"name\") VALUES (?1, ?2)" ∧
        ∃ b, q.call (.ofValues [.null, .bool true]) = .ok b ∧ b.args = [.null, .bool true] := by
  intro names s columns
  have hparse : names.map Column.parse = columns.map .ok := by decide +kernel
  obtain ⟨q, hq, happly⟩ := bound_of_columns "users" (by decide) names (by decide) columns hparse
    ⟨1⟩ ⟨.numbered⟩
  rw [if_pos (by decide +kernel)] at happly
  obtain ⟨-, htext, hcall, -⟩ := happly
  obtain ⟨b, hb, -, hargs⟩ := hcall [.null, .bool true] rfl
  refine ⟨by decide, by decide, hparse, q, hq, ?_, b, hb, hargs⟩
  rw [htext]
  decide +kernel

/-- **Two columns whose names keep the same letters share a parameter**: a row of two values is
refused, and of two data the second is dropped. -/
theorem bound_of_oneArgument :
    let names := ["a b", "ab"]
    let s := InsertInto.columns ⟨"t"⟩ names ⟨1⟩
    let data := [Operand.bind ⟨3⟩ (.value (.int32 1)), .bind ⟨4⟩ (.value (.int32 2))]
    names.Nodup ∧ (∀ name ∈ names, (Column.parse name).isOk = true) ∧
      (∃ q, Statement.compile s = .ok q ∧ q.parameters.length = 1 ∧
        q.call (.ofValues [.int32 1, .int32 2]) = .error (.tooManyArguments 1 2)) ∧
      ∃ q b, Statement.compile (s.values data) = .ok q ∧ q.call {} = .ok b ∧
        b.sql = "INSERT INTO \"t\" (\"a b\", \"ab\") VALUES ($1, $1)" ∧ b.args = [.int32 1] := by
  intro names s data
  have hfirst : s.validate = .ok () := rfl
  have hsecond : (s.values data).validate = .ok () := rfl
  have hcompile : Statement.compile s = .ok (compile s.tokens) :=
    congrArg (Except.map fun _ => compile s.tokens) hfirst
  have hvalues : Statement.compile (s.values data) = .ok (compile (s.values data).tokens) :=
    congrArg (Except.map fun _ => compile (s.values data).tokens) hsecond
  refine ⟨by decide, by decide +kernel, ⟨_, hcompile, rfl, rfl⟩, _, _, hvalues, rfl, ?_, rfl⟩
  decide +kernel

end Insert

end ParamSql
