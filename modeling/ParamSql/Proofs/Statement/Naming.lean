import ParamSql.Proofs.Expr.Construction
import ParamSql.Proofs.Expr.Shape
import ParamSql.Proofs.Statement.Rows
import ParamSql.Proofs.Statement.Sources

/-!
# Parameters have valid names

A statement takes expressions in by many calls and makes variables of columns and data itself. Each
call is shown to bring in built expressions only, so none of them can bring in a bad name.

* `BuiltTokens` — tokens whose variables come from built expressions.
* `Operand.Built`, `Condition.Built`, `Selection.Built` — arguments of calls, made of built
  expressions.
* `Select.Built.add`, `Insert.Step.Built.source`, `Update.Built.add`, `Delete.built_restrict` — a call
  keeps what a statement holds built.
* `names_valid` — the names made on the way are valid, and so are those of all parameters.
-/

set_option autoImplicit false

namespace ParamSql

open Sighting

/-! ## Tokens -/

/-- Tokens whose variables are parts of built expressions. -/
def BuiltTokens (tokens : List Token) : Prop := ∀ x ∈ Token.params tokens, (Expr.param x).Built

/-- Tokens that compile to queries whose parameters are named by identifiers that are no
keywords. -/
def ParametersNamed (tokens : List Token) : Prop :=
  ∀ (options : CompileOptions), ∀ p ∈ (compile tokens options).parameters,
    Name.isIdentifier p.name = true ∧ Name.isKeyword p.name = false

theorem builtTokens_nil : BuiltTokens [] := nofun

theorem builtTokens_sql {text : String} {tokens : List Token} :
    BuiltTokens (.sql text :: tokens) ↔ BuiltTokens tokens := Iff.rfl

theorem builtTokens_append {as bs : List Token} :
    BuiltTokens (as ++ bs) ↔ BuiltTokens as ∧ BuiltTokens bs := by
  unfold BuiltTokens
  rw [Token.params_append, List.forall_mem_append]

theorem builtTokens_commaSeparated {runs : List (List Token)} (h : ∀ run ∈ runs, BuiltTokens run) :
    BuiltTokens (commaSeparated runs) := by
  induction runs with
  | nil => exact builtTokens_nil
  | cons run runs ih =>
    rw [List.forall_mem_cons] at h
    cases runs with
    | nil =>
      rw [commaSeparated_singleton]
      exact h.1
    | cons next runs =>
      rw [commaSeparated_cons_cons, builtTokens_append]
      exact ⟨h.1, ih h.2⟩

theorem Expr.Built.tokens {e : Expr} (h : e.Built) : BuiltTokens e.tokens := by
  intro x hx
  rw [Expr.params_tokens] at hx
  exact .part h hx

/-- Built expressions with commas between. -/
theorem builtTokens_exprs {es : List Expr} (h : ∀ e ∈ es, e.Built) :
    BuiltTokens (commaSeparated (es.map Expr.tokens)) :=
  builtTokens_commaSeparated (List.forall_mem_map.mpr fun e he => (h e he).tokens)

/-- **Every parameter is named like a variable**, so with the variables of built expressions none
has a bad name. -/
theorem BuiltTokens.parametersNamed {tokens : List Token} (h : BuiltTokens tokens) :
    ParametersNamed tokens := by
  intro options p hp
  rw [compile_parameters] at hp
  have hname : p.name ∈ distinctNames (Token.params tokens) := by
    rw [← parameters_names]
    exact List.mem_map_of_mem hp
  obtain ⟨x, hx, hxp⟩ := mem_distinctNames.mp hname
  have hvalid : Name.isValid x.name = true := namesValid_singleton.mp (h x hx).namesValid
  rw [hxp, Name.isValid, Bool.and_eq_true, Bool.not_eq_true'] at hvalid
  exact hvalid

theorem builtTokens_tableTokens (name : String) : BuiltTokens (tableTokens name) := by
  unfold tableTokens
  split <;> exact builtTokens_nil

/-! ## Arguments of calls -/

/-- An operand that is data or a built expression. -/
def Operand.Built (o : Operand) : Prop := ∀ e, o = .expr e → e.Built

/-- A condition on built expressions. -/
def Condition.Built : Condition → Prop
  | .expr e => e.Built
  | .compare _ _ rhs => rhs.Built

/-- The name of a column or a built expression. -/
def Selection.Built : Selection → Prop
  | .named _ => True
  | .expr e => e.Built

/-- A clause with no conditions, or one whose condition is built. -/
def Filter.Built (f : Filter) : Prop := ∀ e, f.constraint = some e → e.Built

theorem Condition.Built.resolve {c : Condition} (h : c.Built) {e : Expr} (he : c.resolve = .ok e) :
    e.Built := by
  cases c with
  | expr e' =>
    obtain rfl := Except.ok.inj he
    exact h
  | compare column op rhs =>
    obtain ⟨op, -, he⟩ := bind_eq_ok he
    obtain ⟨c, -, he⟩ := bind_eq_ok he
    obtain rfl := Except.ok.inj he
    exact .compare op (.column c) h

theorem Selection.Built.resolve {item : Selection} (h : item.Built) {e : Expr}
    (he : item.resolve = .ok e) : e.Built := by
  cases item with
  | expr e' =>
    obtain rfl := Except.ok.inj he
    exact h
  | named text =>
    rw [Selection.resolve] at he
    split at he
    · obtain rfl := Except.ok.inj he
      exact .raw "*"
    · obtain ⟨c, -, rfl⟩ := map_eq_ok he
      exact .column c

theorem built_resolveAll {items : List Selection} (h : ∀ i ∈ items, i.Built) {es : List Expr}
    (hes : resolveAll items = .ok es) : ∀ e ∈ es, e.Built := by
  intro e he
  obtain ⟨item, hitem, hresolve⟩ := mem_of_mapM hes he
  exact (h item hitem).resolve hresolve

namespace Filter

theorem built_empty : Filter.Built {} := nofun

theorem Built.push {f : Filter} (h : f.Built) (op : Operator) {e : Expr} (he : e.Built) :
    (f.push op e).Built := by
  intro whole hwhole
  unfold Filter.push at hwhole
  split at hwhole
  · obtain rfl := Option.some.inj hwhole
    exact he
  · rename_i before hbefore
    obtain rfl := Option.some.inj hwhole
    exact .binary _ (h before hbefore) he

theorem Built.tokens {f : Filter} (h : f.Built) : BuiltTokens f.tokens := by
  unfold Filter.tokens
  split
  · exact builtTokens_nil
  · rename_i e he
    exact (h e he).tokens

end Filter

/-! ## SELECT -/

/-- A clause made of built expressions. -/
def Select.Clause.Built : Select.Clause → Prop
  | .columns items | .grouping items | .ordering items _ => ∀ i ∈ items, i.Built
  | .filter _ condition => condition.Built
  | .filterAny conditions => ∀ c ∈ conditions, c.Built
  | .table _ | .distinct | .limit _ | .offset _ => True

/-- A SELECT that holds built expressions only. -/
structure Select.Built (s : Select) : Prop where
  columns : ∀ e ∈ s.columns, e.Built
  filter : s.filter.Built
  grouping : ∀ e ∈ s.grouping, e.Built
  ordering : ∀ i ∈ s.ordering, i.1.Built

namespace Select

theorem built_empty : Select.Built {} := ⟨nofun, Filter.built_empty, nofun, nofun⟩

theorem built_anyOf {conditions : List Condition} (h : ∀ c ∈ conditions, c.Built) {e : Expr}
    (he : anyOf conditions = .ok e) : e.Built := by
  obtain ⟨es, hes, hgroup⟩ := bind_eq_ok he
  refine Expr.built_group (fun e' he' => ?_) hgroup
  obtain ⟨c, hc, hresolve⟩ := mem_of_mapM hes he'
  exact (h c hc).resolve hresolve

/-- An error that is noted changes nothing else, so the change is all that matters. -/
theorem Built.apply {s : Select} (h : s.Built) {α : Type} {result : Except Error α}
    {change : α → Select} (hchange : ∀ a, result = .ok a → (change a).Built) :
    (s.apply result change).Built := by
  unfold Select.apply
  split
  · exact hchange _ rfl
  · exact { h with }

/-- **A clause keeps what a SELECT holds built.** -/
theorem Built.add {s : Select} (h : s.Built) {c : Clause} (hc : c.Built) : (s.add c).Built := by
  cases c with
  | columns items =>
    refine h.apply fun es hes => { h with columns := ?_ }
    exact List.forall_mem_append.mpr ⟨h.columns, built_resolveAll hc hes⟩
  | table name => exact h.apply fun _ _ => { h with }
  | distinct => exact { h with }
  | filter connective condition =>
    exact h.apply fun e he => { h with filter := h.filter.push _ (hc.resolve he) }
  | filterAny conditions =>
    exact h.apply fun e he => { h with filter := h.filter.push _ (built_anyOf hc he) }
  | grouping items =>
    refine h.apply fun es hes => { h with grouping := ?_ }
    exact List.forall_mem_append.mpr ⟨h.grouping, built_resolveAll hc hes⟩
  | ordering items direction =>
    refine h.apply fun es hes => { h with ordering := ?_ }
    refine List.forall_mem_append.mpr ⟨h.ordering, List.forall_mem_map.mpr ?_⟩
    exact built_resolveAll hc hes
  | limit n => exact { h with }
  | offset n => exact { h with }

theorem built_ofClauses {clauses : List Clause} (h : ∀ c ∈ clauses, c.Built) :
    (ofClauses clauses).Built :=
  List.foldlRecOn clauses add built_empty fun _ hs c hc => hs.add (h c hc)

theorem builtTokens_orderingTokens (lead : String) {items : List (Expr × Direction)}
    (h : ∀ i ∈ items, i.1.Built) : BuiltTokens (orderingTokens (.sql lead) items) := by
  induction items generalizing lead with
  | nil => exact builtTokens_nil
  | cons item items ih =>
    rw [List.forall_mem_cons] at h
    rw [orderingTokens, List.cons_append, builtTokens_sql, builtTokens_append, builtTokens_sql]
    exact ⟨h.1.tokens, ih "," h.2⟩

theorem builtTokens_countTokens (keyword : String) (n : Option UInt64) :
    BuiltTokens (countTokens keyword n) := by
  cases n <;> exact builtTokens_nil

theorem Built.tokens {s : Select} (h : s.Built) : BuiltTokens s.tokens := by
  have hcolumns := builtTokens_exprs h.columns
  have hordering := builtTokens_orderingTokens "ORDER BY" h.ordering
  have hlimit := builtTokens_countTokens "LIMIT" s.limit
  have hoffset := builtTokens_countTokens "OFFSET" s.offset
  unfold Select.tokens
  simp only [builtTokens_append, List.cons_append, builtTokens_sql]
  -- what is left are DISTINCT, the table and the grouping, any of which may be missing
  refine ⟨⟨⟨⟨⟨⟨⟨?_, hcolumns⟩, ?_⟩, h.filter.tokens⟩, ?_⟩, hordering⟩, hlimit⟩, hoffset⟩
  · split <;> exact builtTokens_nil
  · split <;> exact builtTokens_nil
  · split
    · exact builtTokens_nil
    · exact builtTokens_exprs h.grouping

end Select

/-! ## INSERT -/

/-- What is inserted, made of built expressions. -/
def InsertSource.Built : InsertSource → Prop
  | .parameters xs => ∀ x ∈ xs, (Expr.param x).Built
  | .values es => ∀ e ∈ es, e.Built
  | .raw tokens => BuiltTokens tokens
  | .query s => s.Built

/-- A step with built expressions or the SELECT of such clauses. -/
def Insert.Step.Built : Insert.Step → Prop
  | .values row => ∀ o ∈ row, o.Built
  | .query select =>
    ∃ clauses : List Select.Clause, (∀ c ∈ clauses, c.Built) ∧ select = Select.ofClauses clauses
  | .rawValues tokens => BuiltTokens tokens

/-- The variables of columns have names that are checked. -/
theorem built_of_standsFor {xs : List Variable} {columns : List Column}
    (h : List.Forall₂ StandsFor xs columns) : ∀ x ∈ xs, (Expr.param x).Built := by
  induction h with
  | nil => exact List.forall_mem_nil _
  | @cons x c _ _ hx _ ih =>
    obtain ⟨hname, -⟩ := hx
    have hvalid : Name.isValid x.name = true := by
      rw [hname]
      exact c.isValid_argument
    have hbuilt : (Expr.param x).Built := .param (Variable.named_of_isValid hvalid x.id x.default)
    exact List.forall_mem_cons.mpr ⟨hbuilt, ih⟩

namespace Insert

theorem built_valueExpr (c : Column) {o : Operand} (h : o.Built) : (valueExpr c o).Built := by
  cases o with
  | expr e => exact h e rfl
  | bind id default => exact .param (Variable.named_of_isValid c.isValid_argument id default)

theorem Step.Built.source {st : Step} (h : st.Built) (columns : List Column) :
    (st.source columns).Built := by
  cases st with
  | values row =>
    intro e he
    obtain ⟨p, hp, rfl⟩ := List.mem_map.mp he
    exact built_valueExpr p.1 (h p.2 (List.of_mem_zip hp).2)
  | query select =>
    obtain ⟨clauses, hclauses, rfl⟩ := h
    exact Select.built_ofClauses hclauses
  | rawValues tokens => exact h

/-- **Steps of built expressions keep what is inserted built.** -/
theorem built_ofSteps (table : String) (names : List String) (firstId : VariableId)
    {steps : List Step} (h : ∀ st ∈ steps, st.Built) :
    (ofSteps table names firstId steps).source.Built :=
  source_ofSteps table names firstId (fun _ _ hxs => built_of_standsFor hxs)
    fun st hst => (h st hst).source

theorem builtTokens_parenthesized {tokens : List Token} (h : BuiltTokens tokens) :
    BuiltTokens (parenthesized tokens) :=
  builtTokens_append.mpr ⟨h, builtTokens_nil⟩

theorem builtTokens_source {source : InsertSource} (h : source.Built) :
    BuiltTokens (sourceTokens source) := by
  cases source with
  | parameters xs =>
    refine builtTokens_parenthesized (builtTokens_commaSeparated (List.forall_mem_map.mpr ?_))
    exact fun x hx => (h x hx).tokens
  | values es => exact builtTokens_parenthesized (builtTokens_exprs h)
  | raw tokens => exact builtTokens_parenthesized h
  | query s => exact h.tokens

theorem builtTokens_tokens {s : Insert} (h : s.source.Built) : BuiltTokens s.tokens := by
  have hhead : BuiltTokens (InsertInto.headTokens s.table) := builtTokens_tableTokens _
  have hcolumns : BuiltTokens (commaSeparated (s.columns.map fun c => [.sql c.sql])) :=
    builtTokens_commaSeparated (List.forall_mem_map.mpr fun _ _ => builtTokens_nil)
  unfold tokens
  rw [builtTokens_append, builtTokens_append]
  exact ⟨⟨hhead, builtTokens_parenthesized hcolumns⟩, builtTokens_source h⟩

end Insert

/-! ## UPDATE and DELETE -/

/-- A clause made of built expressions. -/
def Update.Clause.Built : Update.Clause → Prop
  | .set _ value => value.Built
  | .filter _ condition => condition.Built

/-- An UPDATE that holds built expressions only. -/
structure Update.Built (s : Update) : Prop where
  assignments : ∀ e ∈ s.assignments, e.Built
  filter : s.filter.Built

namespace Update

theorem built_empty (table : String) : Update.Built ⟨table, [], {}, none⟩ :=
  ⟨nofun, Filter.built_empty⟩

theorem Built.set {s : Update} (h : s.Built) (column : String) {value : Operand}
    (hvalue : value.Built) : (s.set column value).Built := by
  unfold Update.set
  split
  · rename_i c _
    have hassignment : ((Expr.column c).compare .eq value).Built := .compare .eq (.column c) hvalue
    exact { h with
      assignments := List.forall_mem_append.mpr
        ⟨h.assignments, List.forall_mem_singleton.mpr hassignment⟩ }
  · exact { h with }

theorem Built.restrict {s : Update} (h : s.Built) (connective : Connective) {condition : Condition}
    (hcondition : condition.Built) : (s.restrict connective condition).Built := by
  unfold Update.restrict
  split
  · rename_i e he
    exact { h with filter := h.filter.push _ (hcondition.resolve he) }
  · exact { h with }

/-- **A clause keeps what an UPDATE holds built.** -/
theorem Built.add {s : Update} (h : s.Built) {c : Clause} (hc : c.Built) : (s.add c).Built := by
  cases c with
  | set column value => exact h.set column hc
  | filter connective condition => exact h.restrict connective hc

theorem Built.tokens {s : Update} (h : s.Built) : BuiltTokens s.tokens := by
  have hhead : BuiltTokens (UpdateTable.headTokens s.table) := builtTokens_tableTokens _
  have hassignments := builtTokens_exprs h.assignments
  unfold Update.tokens
  rw [List.append_assoc, List.cons_append, builtTokens_append, builtTokens_sql, builtTokens_append]
  exact ⟨hhead, hassignments, h.filter.tokens⟩

end Update

namespace Delete

/-- **A condition keeps what a DELETE holds built.** -/
theorem built_restrict {s : Delete} (h : s.filter.Built) (connective : Connective)
    {condition : Condition} (hcondition : condition.Built) :
    (s.restrict connective condition).filter.Built := by
  unfold restrict
  split
  · rename_i e he
    exact h.push _ (hcondition.resolve he)
  · exact h

theorem built_ofConditions (table : String) {first : Condition} (hfirst : first.Built)
    {more : List (Connective × Condition)} (hmore : ∀ call ∈ more, call.2.Built) :
    (ofConditions table first more).filter.Built :=
  List.foldlRecOn (motive := fun s : Delete => s.filter.Built) more
    (fun s call => s.restrict call.1 call.2)
    (built_restrict Filter.built_empty .and hfirst)
    fun _ hs call hcall => built_restrict hs call.1 (hmore call hcall)

theorem builtTokens_tokens {s : Delete} (h : s.filter.Built) : BuiltTokens s.tokens := by
  have hhead : BuiltTokens (DeleteFrom.headTokens s.table) := builtTokens_tableTokens _
  unfold tokens
  exact builtTokens_append.mpr ⟨hhead, h.tokens⟩

end Delete

/-! ## All names -/

/-- **Every parameter has a valid name, however it came about.** Cleaning makes a valid name of any
text and leaves just the valid ones alone; the name made of a column is valid. The name for data
beside an expression with valid names is one that the caller could have given it, so it passes the
check that is not made. And so the parameters of an expression, a SELECT, an INSERT, an UPDATE and a
DELETE, whatever calls built it, are named by identifiers that are no keywords. -/
theorem names_valid :
    (∀ text : String, Name.isValid (Name.clean text) = true ∧
      (Name.clean text = text ↔ Name.isValid text = true) ∧
      Name.clean (Name.clean text) = Name.clean text) ∧
    (∀ c : Column, Name.isValid c.argument = true) ∧
    (∀ (e : Expr) (label : String), NamesValid e.params → Expr.IsLabel label →
      Name.isValid (e.operandName label) = true ∧
      ∀ (id : VariableId) (default : Default),
        ∃ x, Variable.named (e.operandName label) id default = .ok x ∧
          e.ofOperand label (.bind id default) = .param x) ∧
    (∀ e : Expr, e.Built → ParametersNamed e.tokens) ∧
    (∀ clauses : List Select.Clause, (∀ c ∈ clauses, c.Built) →
      ParametersNamed (Statement.tokens (Select.ofClauses clauses))) ∧
    (∀ (table : String) (names : List String) (firstId : VariableId) (steps : List Insert.Step),
      (∀ step ∈ steps, step.Built) →
      ParametersNamed (Statement.tokens (Insert.ofSteps table names firstId steps))) ∧
    (∀ (table column : String) (value : Operand) (clauses : List Update.Clause),
      value.Built → (∀ c ∈ clauses, c.Built) →
      ParametersNamed (Statement.tokens
        (clauses.foldl Update.add (UpdateTable.set ⟨table⟩ column value)))) ∧
    ∀ (table : String) (first : Condition) (more : List (Connective × Condition)),
      first.Built → (∀ call ∈ more, call.2.Built) →
      ParametersNamed (Statement.tokens (Delete.ofConditions table first more)) := by
  refine ⟨fun text => ?_, Column.isValid_argument, fun e label he hlabel => ?_, fun e he => ?_,
    fun clauses hclauses => ?_, fun table names firstId steps hsteps => ?_,
    fun table column value clauses hvalue hclauses => ?_, fun table first more hfirst hmore => ?_⟩
  · have hclean := Name.isValid_clean text
    exact ⟨hclean, Name.clean_eq_self_iff, Name.clean_eq_self_iff.mpr hclean⟩
  · exact ⟨Expr.isValid_operandName he hlabel, Expr.ofOperand_bind he hlabel⟩
  · exact he.tokens.parametersNamed
  · exact (Select.built_ofClauses hclauses).tokens.parametersNamed
  · have hsource := Insert.built_ofSteps table names firstId hsteps
    exact (Insert.builtTokens_tokens hsource).parametersNamed
  · have hset := (Update.built_empty table).set column hvalue
    have hall : (clauses.foldl Update.add (UpdateTable.set ⟨table⟩ column value)).Built :=
      List.foldlRecOn clauses Update.add hset fun _ hs c hc => hs.add (hclauses c hc)
    exact hall.tokens.parametersNamed
  · have hfilter := Delete.built_ofConditions table hfirst hmore
    exact (Delete.builtTokens_tokens hfilter).parametersNamed

/-- Data beside a column named by a keyword, in an expression and in a statement of each kind. -/
theorem parametersNamed_keyword :
    let subject := Expr.column ⟨none, "while", by decide⟩
    let e := subject.compare .ge (.bind ⟨1⟩ .required)
    let select := Select.ofClauses [.columns [.named "*"], .filter .and (.expr e)]
    let insert := Insert.ofSteps "jobs" ["1st", "while"] ⟨3⟩ [.values [.bind ⟨2⟩ .null, .expr e]]
    let update := [Update.Clause.filter .and (.expr e)].foldl Update.add
      (UpdateTable.set ⟨"jobs"⟩ "jobs.while" (.bind ⟨2⟩ .null))
    let delete := Delete.ofConditions "jobs" (.expr e)
      [(.or, .compare "while" (.spelled "<") (.expr e))]
    Name.isValid (subject.operandName Operator.ge.label) = true ∧
      ParametersNamed e.tokens ∧ ParametersNamed (Statement.tokens select) ∧
      ParametersNamed (Statement.tokens insert) ∧ ParametersNamed (Statement.tokens update) ∧
      ParametersNamed (Statement.tokens delete) ∧
      (compile (Statement.tokens insert)).parameters.map (·.name) = ["_1st", "_while_ge"] := by
  intro subject e select insert update delete
  have he : e.Built := .compare .ge (.column _) nofun
  have hdata : Operand.Built (.bind ⟨2⟩ .null) := nofun
  have hoperand : Operand.Built (.expr e) := by
    rintro _ ⟨⟩
    exact he
  obtain ⟨-, -, hname, hexpr, hselect, hinsert, hupdate, hdelete⟩ := names_valid
  refine ⟨(hname subject _ namesValid_nil (.operator .ge)).1, hexpr e he, hselect _ ?_,
    hinsert _ _ _ _ ?_, hupdate _ _ _ _ hdata ?_, hdelete _ _ _ he ?_, ?_⟩
  · exact List.forall_mem_cons.mpr ⟨List.forall_mem_singleton.mpr trivial,
      List.forall_mem_singleton.mpr he⟩
  · exact List.forall_mem_singleton.mpr
      (List.forall_mem_cons.mpr ⟨hdata, List.forall_mem_singleton.mpr hoperand⟩)
  · exact List.forall_mem_singleton.mpr he
  · exact List.forall_mem_singleton.mpr hoperand
  · rfl

end ParamSql
