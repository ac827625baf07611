import ParamSql.Expr.Build
import ParamSql.Proofs.Expr.Shape

/-!
# The slots of data beside an expression

Data compared with an expression becomes a variable that takes its name from the expression. Whether
it has a slot of its own is a matter of that name: beside a column, a variable or raw SQL it always
is a new one, beside anything else a variable inside may bear it.

* `HasOwnPlaceholder` — a variable is written as a placeholder that no other one is written as;
  `hasOwnPlaceholder_iff` says when, by names.
* `Sighting.newParameter`, `Sighting.newConflict` — what one more variable adds to a table.
* `Expr.operandName_injective`, `Expr.operandName_notMem` — the names for data differ from
  comparison to comparison, and from the names in an expression that is not composite.
* `Expr.slot_of_data` — the slots of data in comparisons and ranges.
* `Expr.slot_shared` — expressions and the data they are compared with in one slot.
-/

set_option autoImplicit false

namespace ParamSql

open Sighting

/-! ## Placeholders of their own -/

/-- The variable at a place among tokens is written otherwise than all variables at other places. -/
def HasOwnPlaceholder (style : PlaceholderStyle) (tokens : List Token) (i : Nat) : Prop :=
  ∀ j y, j ≠ i → tokens[j]? = some (.param y) →
    (emit style {} tokens).1[j]? ≠ (emit style {} tokens).1[i]?

theorem Token.mem_params {tokens : List Token} {x : Variable} :
    x ∈ params tokens ↔ .param x ∈ tokens := by
  rw [params, List.mem_filterMap]
  constructor
  · rintro ⟨t, ht, hx⟩
    cases t with
    | sql text => cases hx
    | param y =>
      obtain rfl : y = x := Option.some.inj hx
      exact ht
  · intro h
    exact ⟨_, h, rfl⟩

theorem Sighting.position_inj {xs : List Variable} {x y : Variable} (hx : x ∈ xs) :
    position xs x.name = position xs y.name ↔ x.name = y.name := by
  have hmem : x.name ∈ distinctNames xs := mem_distinctNames.mpr ⟨x, hx, rfl⟩
  rw [position, position, Nat.add_right_cancel_iff]
  exact List.idxOf_inj hmem

/-- Two variables are written alike just if they have one name. -/
theorem placeholder_eq_iff {style : PlaceholderStyle} {tokens : List Token} {i j : Nat}
    {x y : Variable} (hi : tokens[i]? = some (.param x)) (hj : tokens[j]? = some (.param y)) :
    (emit style {} tokens).1[j]? = (emit style {} tokens).1[i]? ↔ y.name = x.name := by
  have hy : y ∈ Token.params tokens := Token.mem_params.mpr (List.mem_of_getElem? hj)
  rw [emit_param style hi, emit_param style hj, Option.some_inj, placeholder_inj, position_inj hy]

/-- **A variable has a placeholder of its own just if no variable before or after it has its name.** -/
theorem hasOwnPlaceholder_iff (style : PlaceholderStyle) (before after : List Token) (x : Variable) :
    HasOwnPlaceholder style (before ++ .param x :: after) before.length ↔
      ∀ y ∈ Token.params before ++ Token.params after, y.name ≠ x.name := by
  have hx : (before ++ .param x :: after)[before.length]? = some (.param x) := by simp
  constructor
  · intro h y hy
    have hplace : ∃ j, j ≠ before.length ∧
        (before ++ .param x :: after)[j]? = some (.param y) := by
      rcases List.mem_append.mp hy with hy | hy
      · obtain ⟨j, hj⟩ := List.mem_iff_getElem?.mp (Token.mem_params.mp hy)
        have hlt := (List.getElem?_eq_some_iff.mp hj).1
        exact ⟨j, by omega, by rw [List.getElem?_append_left hlt, hj]⟩
      · obtain ⟨j, hj⟩ := List.mem_iff_getElem?.mp (Token.mem_params.mp hy)
        refine ⟨before.length + (j + 1), by omega, ?_⟩
        rw [List.getElem?_append_right (by omega), Nat.add_sub_cancel_left, List.getElem?_cons_succ,
          hj]
    obtain ⟨j, hne, hj⟩ := hplace
    exact fun hname => h j y hne hj ((placeholder_eq_iff hx hj).mpr hname)
  · intro h j y hne hj hsame
    refine h y ?_ ((placeholder_eq_iff hx hj).mp hsame)
    rw [List.mem_append, Token.mem_params, Token.mem_params]
    rcases Nat.lt_or_gt_of_ne hne with hlt | hgt
    · rw [List.getElem?_append_left hlt] at hj
      exact .inl (List.mem_of_getElem? hj)
    · obtain ⟨k, rfl⟩ : ∃ k, j = before.length + (k + 1) := ⟨j - before.length - 1, by omega⟩
      rw [List.getElem?_append_right (by omega), Nat.add_sub_cancel_left,
        List.getElem?_cons_succ] at hj
      exact .inr (List.mem_of_getElem? hj)

/-! ## One variable more -/

namespace Sighting

variable {xs : List Variable} {x y : Variable}

/-- The parameter that a variable behind others adds: none if one of them bears its name. -/
def newParameter (xs : List Variable) (x : Variable) : List Parameter :=
  if x.name ∈ xs.map (·.name) then [] else [x.parameter]

/-- The conflict that a variable behind others adds: none unless one of them bears its name. -/
def newConflict (xs : List Variable) (x : Variable) : List Conflict :=
  if x.name ∈ xs.map (·.name) then (conflict? xs x).toList else []

theorem mem_map_name_iff {name : String} :
    name ∈ xs.map (·.name) ↔ name ∈ distinctNames xs := List.mem_eraseDups.symm

theorem parameters_behind (xs : List Variable) (x : Variable) :
    parameters (xs ++ [x]) = parameters xs ++ newParameter xs x := by
  rw [parameters_concat, newParameter]
  simp only [mem_map_name_iff]
  split
  · rw [List.append_nil]
  · rfl

theorem conflicts_behind (xs : List Variable) (x : Variable) :
    conflicts (xs ++ [x]) = conflicts xs ++ newConflict xs x := by
  rw [conflicts_concat, newConflict]
  simp only [mem_map_name_iff]
  split
  · rename_i h
    rw [conflict?, first?_append_of_mem _ h, conflict?]
  · rename_i h
    rw [conflict?_concat_of_not_mem h]
    rfl

theorem mem_names_concat_of_ne (h : y.name ≠ x.name) :
    x.name ∈ (xs ++ [y]).map (·.name) ↔ x.name ∈ xs.map (·.name) := by
  rw [List.map_append, List.mem_append, List.map_singleton, List.mem_singleton,
    or_iff_left (Ne.symm h)]

/-- A variable of another name in between plays no part. -/
theorem newParameter_concat_of_ne (h : y.name ≠ x.name) :
    newParameter (xs ++ [y]) x = newParameter xs x := by
  simp only [newParameter, mem_names_concat_of_ne h]

theorem newConflict_concat_of_ne (h : y.name ≠ x.name) :
    newConflict (xs ++ [y]) x = newConflict xs x := by
  simp only [newConflict, mem_names_concat_of_ne h, conflict?, first?_concat_of_ne h]

end Sighting

namespace Expr

/-! ## Names for data -/

/-- A name with a word behind it is another name. -/
theorem glued_ne (name label : String) : name ++ "_" ++ label ≠ name := by
  intro h
  have hlength := congrArg (fun s => s.toList.length) h
  simp at hlength

theorem glued_inj {name label label' : String}
    (h : name ++ "_" ++ label = name ++ "_" ++ label') : label = label' := by
  have hchars := congrArg String.toList h
  rw [String.toList_append, String.toList_append (s := name ++ "_")] at hchars
  exact String.toList_inj.mp (List.append_cancel_left hchars)

/-- **Data in different comparisons with one expression has different names.** -/
theorem operandName_injective (e : Expr) : Function.Injective e.operandName := by
  intro label label' h
  unfold operandName at h
  split at h
  · exact glued_inj h
  · split at h <;> split at h
    · rename_i hlabel hlabel'
      rw [hlabel, hlabel']
    · exact absurd h.symm (glued_ne _ _)
    · exact absurd h (glued_ne _ _)
    · exact glued_inj h

/-- **The name for data is a new one** beside a column, a variable or raw SQL. -/
theorem operandName_notMem {e : Expr} (h : e.isComposite = false) (label : String) :
    e.operandName label ∉ e.params.map (·.name) := by
  cases e with
  | column c => exact List.not_mem_nil
  | raw sql => exact List.not_mem_nil
  | param x =>
    rw [params, List.map_singleton, List.mem_singleton]
    exact glued_ne _ _
  | binary | between | call | list => cases h

/-! ## Comparisons and ranges -/

theorem params_operandTokens (e : Expr) : Token.params e.operandTokens = e.params := by
  rw [operandTokens, params_wrap, params_tokens]

theorem tokens_compare (e : Expr) (op : Operator) (id : VariableId) (d : Default) :
    (e.compare op (.bind id d)).tokens =
      e.operandTokens ++ [.sql op.sql, .param ⟨id, e.operandName op.label, d⟩] := rfl

theorem tokens_range (e : Expr) (id id' : VariableId) (d d' : Default) :
    (e.range (.bind id d) (.bind id' d')).tokens =
      e.operandTokens ++ [.sql "BETWEEN", .param ⟨id, e.operandName "min", d⟩, .sql "AND",
        .param ⟨id', e.operandName "max", d'⟩] := by
  show (e.operandTokens ++ [.sql "BETWEEN", .param ⟨id, e.operandName "min", d⟩]) ++
    [.sql "AND", .param ⟨id', e.operandName "max", d'⟩] = _
  rw [List.append_assoc]
  rfl

theorem params_compare (e : Expr) (op : Operator) (x : Variable) :
    Token.params (e.operandTokens ++ [.sql op.sql, .param x]) = e.params ++ [x] := by
  simp [params_operandTokens]

theorem params_range (e : Expr) (low high : Variable) :
    Token.params (e.operandTokens ++ [.sql "BETWEEN", .param low, .sql "AND", .param high]) =
      e.params ++ [low] ++ [high] := by
  simp [params_operandTokens]

/-- In a comparison, only the names of the expression matter for the slot of the data. -/
theorem own_compare (style : PlaceholderStyle) (e : Expr) (op : Operator) (x : Variable) :
    HasOwnPlaceholder style (e.operandTokens ++ [.sql op.sql, .param x])
        (e.operandTokens.length + 1) ↔ x.name ∉ e.params.map (·.name) := by
  have h := hasOwnPlaceholder_iff style (e.operandTokens ++ [.sql op.sql]) [] x
  rw [List.append_assoc, List.length_append] at h
  refine Iff.trans h ?_
  simp [params_operandTokens]

/-- So it is for both ends of a range, if these have different names. -/
theorem own_range (style : PlaceholderStyle) (e : Expr) {low high : Variable}
    (hne : low.name ≠ high.name) :
    let tokens := e.operandTokens ++ [.sql "BETWEEN", .param low, .sql "AND", .param high]
    (HasOwnPlaceholder style tokens (e.operandTokens.length + 1) ↔
        low.name ∉ e.params.map (·.name)) ∧
      (HasOwnPlaceholder style tokens (e.operandTokens.length + 3) ↔
        high.name ∉ e.params.map (·.name)) := by
  intro tokens
  have hlow := hasOwnPlaceholder_iff style (e.operandTokens ++ [.sql "BETWEEN"])
    [.sql "AND", .param high] low
  have hhigh := hasOwnPlaceholder_iff style
    (e.operandTokens ++ [.sql "BETWEEN", .param low, .sql "AND"]) [] high
  rw [List.append_assoc, List.length_append] at hlow hhigh
  refine ⟨hlow.trans ?_, hhigh.trans ?_⟩
  · simp [params_operandTokens, Ne.symm hne, or_imp, forall_and]
  · simp [params_operandTokens, hne, or_imp, forall_and]

/-- **The slots of data compared with an expression.** A comparison adds one variable to those of
the expression, and a range two, with two placeholders. Such a variable has a placeholder of its own
just if no variable in the expression has its name; it adds a parameter then and no conflict.
Otherwise it adds no parameter, and the conflict, if any, with the first variable of that name. No
column, variable or raw SQL has the name in it. Plain data is the default of its variable. -/
theorem slot_of_data (e : Expr) (options : CompileOptions) :
    let style := options.placeholder
    let names := e.params.map (·.name)
    let own := compile e.tokens options
    let place := e.operandTokens.length + 1
    (∀ op id d,
      let x : Variable := ⟨id, e.operandName op.label, d⟩
      let tokens := (e.compare op (.bind id d)).tokens
      let q := compile tokens options
      tokens = e.operandTokens ++ [.sql op.sql, .param x] ∧
        (HasOwnPlaceholder style tokens place ↔ x.name ∉ names) ∧
        q.parameters = own.parameters ++ newParameter e.params x ∧
        q.conflicts = own.conflicts ++ newConflict e.params x) ∧
    (∀ id id' d d',
      let low : Variable := ⟨id, e.operandName "min", d⟩
      let high : Variable := ⟨id', e.operandName "max", d'⟩
      let tokens := (e.range (.bind id d) (.bind id' d')).tokens
      let q := compile tokens options
      let fragments := (emit style {} tokens).1
      tokens = e.operandTokens ++ [.sql "BETWEEN", .param low, .sql "AND", .param high] ∧
        fragments[place]? ≠ fragments[place + 2]? ∧
        (HasOwnPlaceholder style tokens place ↔ low.name ∉ names) ∧
        (HasOwnPlaceholder style tokens (place + 2) ↔ high.name ∉ names) ∧
        q.parameters = own.parameters ++ newParameter e.params low ++ newParameter e.params high ∧
        q.conflicts = own.conflicts ++ newConflict e.params low ++ newConflict e.params high) ∧
    (e.isComposite = false → ∀ label, e.operandName label ∉ names) ∧
    ∀ id name v, (Variable.parameter ⟨id, name, .ofValue v⟩).default = some v := by
  intro style names own place
  have hown : own.parameters = parameters e.params ∧ own.conflicts = conflicts e.params := by
    rw [compile_parameters, compile_conflicts, params_tokens]
    exact ⟨rfl, rfl⟩
  refine ⟨?_, ?_, operandName_notMem, Variable.default_parameter_ofValue⟩
  · intro op id d x tokens q
    have htokens : tokens = e.operandTokens ++ [.sql op.sql, .param x] := tokens_compare e op id d
    have hparams : Token.params tokens = e.params ++ [x] := by rw [htokens, params_compare]
    refine ⟨htokens, ?_, ?_, ?_⟩
    · rw [htokens]
      exact own_compare style e op x
    · rw [hown.1, ← parameters_behind, ← hparams]
      exact compile_parameters tokens options
    · rw [hown.2, ← conflicts_behind, ← hparams]
      exact compile_conflicts tokens options
  · intro id id' d d' low high tokens q fragments
    have htokens : tokens =
        e.operandTokens ++ [.sql "BETWEEN", .param low, .sql "AND", .param high] :=
      tokens_range e id id' d d'
    have hparams : Token.params tokens = e.params ++ [low] ++ [high] := by
      rw [htokens, params_range]
    have hne : low.name ≠ high.name := by
      intro h
      have hlabel : "min" = "max" := operandName_injective e h
      exact absurd hlabel (by decide)
    have hlow : tokens[place]? = some (.param low) := by
      rw [htokens, List.getElem?_append_right (by omega), Nat.add_sub_cancel_left]
      rfl
    have hhigh : tokens[place + 2]? = some (.param high) := by
      rw [htokens, List.getElem?_append_right (by omega), Nat.add_assoc, Nat.add_sub_cancel_left]
      rfl
    obtain ⟨hownLow, hownHigh⟩ := own_range style e hne
    refine ⟨htokens, ?_, ?_, ?_, ?_, ?_⟩
    · exact mt (placeholder_eq_iff hhigh hlow).mp hne
    · rw [htokens]
      exact hownLow
    · rw [htokens]
      exact hownHigh
    -- The two ends have different names, so the low one plays no part in what the high one adds.
    · rw [hown.1, ← parameters_behind, ← newParameter_concat_of_ne hne, ← parameters_behind,
        ← hparams]
      exact compile_parameters tokens options
    · rw [hown.2, ← conflicts_behind, ← newConflict_concat_of_ne hne, ← conflicts_behind,
        ← hparams]
      exact compile_conflicts tokens options

/-- A variable named like the start of the name for data leaves it a slot of its own. -/
theorem slot_product :
    let price : Variable := ⟨⟨1⟩, "price", .required⟩
    let product : Expr := .binary (.param price) .mul (.param ⟨⟨2⟩, "expr", .required⟩)
    let tokens := (product.compare .gt (.bind ⟨3⟩ (.ofValue (.int32 100)))).tokens
    let q := compile tokens
    (HasOwnPlaceholder .dollar tokens 6 ∧ q.conflicts = [] ∧
      q.parameters.map (·.default) = [none, none, some (.int32 100)]) ∧
    (param price).isComposite = false ∧ (param price).operandName "eq" ∉ ["price"] := by
  intro price product tokens q
  obtain ⟨hcompare, -⟩ := slot_of_data product {}
  obtain ⟨-, hown, hparameters, hconflicts⟩ := hcompare .gt ⟨3⟩ (.ofValue (.int32 100))
  have hfresh : product.operandName Operator.gt.label ∉ product.params.map (·.name) := by decide
  rw [newParameter, if_neg hfresh] at hparameters
  rw [newConflict, if_neg hfresh] at hconflicts
  refine ⟨⟨hown.mpr hfresh, hconflicts, ?_⟩, rfl, (slot_of_data (.param price) {}).2.2.1 rfl "eq"⟩
  rw [hparameters]
  rfl

/-- **Data and a variable of the expression it is compared with in one slot**: the name for data
beside a sum is a name that a variable in the sum may have. -/
theorem slot_shared :
    let sum : Expr := .binary (.param ⟨⟨1⟩, "expr", .required⟩) .add (.raw "1")
    let tokens := (sum.compare .eq (.bind ⟨2⟩ (.ofValue (.int32 5)))).tokens
    let q := compile tokens
    (compile sum.tokens).conflicts = [] ∧ ¬HasOwnPlaceholder .dollar tokens 6 ∧
      q.text = "($1 + 1) = $1" ∧ q.conflicts.length = 1 ∧
      q.parameters.map (·.default) = [none] := by
  intro sum tokens q
  refine ⟨rfl, ?_, by decide, rfl, rfl⟩
  intro hown
  exact hown 1 ⟨⟨1⟩, "expr", .required⟩ (by decide) rfl rfl

end Expr

end ParamSql
