import ParamSql.Proofs.Query.Numbering
import ParamSql.Query.Bind

/-!
# What the variables of a query are bound to

From tokens to bound arguments: when no conflict is noted and a call succeeds, each variable gets a
value given for it or its own default, and its own type hint.

* `fill_ok` — what parameters of distinct names get from any keywords.
* `agrees_of_consistent` — without conflicts a variable and the first one of its name are copies of
  each other or declared alike.
* `bound_of_consistent` — the value and the type hint at the placeholder of each variable.
-/

set_option autoImplicit false

namespace ParamSql

open Sighting

/-! ## Filling parameters of distinct names -/

theorem takeNamed?_eq_none {name : String} :
    ∀ {named : List (String × Value)}, takeNamed? name named = none →
      named.lookup name = none
  | [], _ => rfl
  | (n, w) :: named, h => by
    rw [takeNamed?] at h
    split at h
    · cases h
    · rename_i hn
      rw [Option.map_eq_none_iff] at h
      rw [List.lookup_cons, beq_eq_false_iff_ne.mpr (Ne.symm hn)]
      exact takeNamed?_eq_none h

theorem takeNamed?_eq_some {name : String} {v : Value} :
    ∀ {named rest : List (String × Value)}, takeNamed? name named = some (v, rest) →
      named.lookup name = some v ∧ ∀ n, n ≠ name → rest.lookup n = named.lookup n
  | [], _, h => by cases h
  | (n, w) :: named, rest, h => by
    rw [takeNamed?] at h
    split at h
    · rename_i hn
      subst hn
      cases h
      refine ⟨List.lookup_cons_self, fun m hm => ?_⟩
      rw [List.lookup_cons, beq_eq_false_iff_ne.mpr hm]
    · rename_i hn
      obtain ⟨⟨u, left⟩, htake, heq⟩ := Option.map_eq_some_iff.mp h
      cases heq
      obtain ⟨hv, hrest⟩ := takeNamed?_eq_some htake
      refine ⟨?_, fun m hm => ?_⟩
      · rw [List.lookup_cons, beq_eq_false_iff_ne.mpr (Ne.symm hn)]
        exact hv
      · rw [List.lookup_cons, List.lookup_cons, hrest m hm]

/-- **Parameters of distinct names get the keyword of their name or else their default**, from any
list of keywords. -/
theorem fill_ok :
    ∀ {ps : List Parameter} {named left : List (String × Value)} {values : List Value},
      (ps.map (·.name)).Nodup → fill ps named = .ok (values, left) →
        values.map some = ps.map fun p => (named.lookup p.name).or p.default
  | [], named, left, values, _, h => by
    cases h
    rfl
  | p :: ps, named, left, values, hnames, h => by
    rw [List.map_cons, List.nodup_cons] at hnames
    have htail : ∀ {rest more : List (String × Value)} {ws : List Value},
        fill ps rest = .ok (ws, more) → (∀ n, n ≠ p.name → rest.lookup n = named.lookup n) →
          ws.map some = ps.map fun q => (named.lookup q.name).or q.default := by
      intro rest more ws hfill hrest
      rw [fill_ok hnames.2 hfill]
      refine List.map_congr_left fun q hq => ?_
      rw [hrest q.name fun he => hnames.1 (he ▸ List.mem_map_of_mem hq)]
    rw [fill] at h
    split at h
    · rename_i v rest htake
      obtain ⟨hv, hrest⟩ := takeNamed?_eq_some htake
      cases hfill : fill ps rest with
      | error e => rw [hfill] at h; cases h
      | ok r =>
        rw [hfill] at h
        cases h
        rw [List.map_cons, List.map_cons, hv, htail hfill hrest]
        rfl
    · rename_i v htake hdefault
      cases hfill : fill ps named with
      | error e => rw [hfill] at h; cases h
      | ok r =>
        rw [hfill] at h
        cases h
        rw [List.map_cons, List.map_cons, takeNamed?_eq_none htake, hdefault,
          htail hfill fun _ _ => rfl]
        rfl
    · cases h

/-- A call that succeeds has bound the values by position and what the other parameters get. -/
theorem call_ok {q : CompiledQuery} {args : Args} {b : BoundQuery}
    (hnames : (q.parameters.map (·.name)).Nodup) (h : q.call args = .ok b) :
    args.positional.length ≤ q.parameters.length ∧
      b.sql = q.text ∧ b.typeHints = q.parameters.map (·.typeHint) ∧
      b.args.map some = args.positional.map some ++
        (q.parameters.drop args.positional.length).map
          fun p => (args.named.lookup p.name).or p.default := by
  rw [CompiledQuery.call] at h
  split at h
  · cases h
  · rename_i hlength
    split at h
    · cases h
    · rename_i values hfill
      cases h
      refine ⟨Nat.not_lt.mp hlength, rfl, rfl, ?_⟩
      have hdrop : ((q.parameters.drop args.positional.length).map (·.name)).Nodup := by
        rw [List.map_drop]
        exact hnames.sublist (List.drop_sublist _ _)
      rw [List.map_append, fill_ok hdrop hfill]
    · cases h

/-- The value at the place of a parameter is the one given by position or else what the parameter
gets. -/
theorem value_at {ps : List Parameter} {positional values : List Value}
    {get : Parameter → Option Value} {i : Nat} {p : Parameter} {v : Value}
    (h : values.map some = positional.map some ++ (ps.drop positional.length).map get)
    (hp : ps[i]? = some p) (hv : values[i]? = some v) :
    if i < positional.length then positional[i]? = some v else get p = some v := by
  have hsome : (values.map some)[i]? = some (some v) := by
    rw [List.getElem?_map, hv]
    rfl
  rw [h] at hsome
  split
  · rename_i hi
    rw [List.getElem?_append_left (by rw [List.length_map]; exact hi), List.getElem?_map] at hsome
    obtain ⟨w, hw, hwv⟩ := Option.map_eq_some_iff.mp hsome
    rw [hw, hwv]
  · rename_i hi
    have hindex : positional.length + (i - positional.length) = i := by omega
    rw [List.getElem?_append_right (by rw [List.length_map]; omega), List.length_map,
      List.getElem?_map, List.getElem?_drop, hindex, hp, Option.map_some] at hsome
    exact Option.some.inj hsome

/-! ## Queries without conflicts -/

/-- Variables of one identity are copies of one another. -/
def Copies (xs : List Variable) : Prop := ∀ x ∈ xs, ∀ y ∈ xs, x.id = y.id → x = y

/-- The first variable of a name and a later one are copies of each other or declared alike. -/
def Agrees (f x : Variable) : Prop :=
  if f.id = x.id then f = x
  else
    f.parameter.typeHint = x.parameter.typeHint ∧
      (f.parameter.default == x.parameter.default) = true

theorem conflicts_eq_nil_of_consistent {q : CompiledQuery} (h : q.ensureConsistent = .ok ()) :
    q.conflicts = [] := by
  unfold CompiledQuery.ensureConsistent at h
  split at h
  · rename_i hconflicts
    exact hconflicts
  · cases h

theorem agrees_of_consistent {xs : List Variable} {x f : Variable} (hcopies : Copies xs)
    (h : Sighting.conflicts xs = []) (hx : x ∈ xs) (hf : first? xs x.name = some f) :
    Agrees f x := by
  unfold Agrees
  split
  · rename_i hid
    exact hcopies f (mem_of_first? hf) x hx hid
  · rename_i hid
    have hnone : Sighting.conflict? xs x = none := List.filterMap_eq_nil_iff.mp h x hx
    rw [Sighting.conflict?, hf, Option.bind_some] at hnone
    split at hnone
    · rename_i hagree
      exact hagree.resolve_left hid
    · cases hnone

/-- What is declared alike has the same type hint. -/
theorem typeHint_of_agrees {x f : Variable} (h : Agrees f x) :
    f.parameter.typeHint = x.parameter.typeHint := by
  unfold Agrees at h
  split at h
  · rw [h]
  · exact h.1

/-- What is declared alike has equal defaults; copies have the same. -/
theorem default_of_agrees {x f : Variable} {v : Value} (h : Agrees f x)
    (hv : f.parameter.default = some v) :
    ∃ d, x.parameter.default = some d ∧ if f.id = x.id then v = d else (v == d) = true := by
  unfold Agrees at h
  split at h
  · rename_i hid
    exact ⟨v, h ▸ hv, by rw [if_pos hid]⟩
  · rename_i hid
    rw [hv] at h
    cases hd : x.parameter.default with
    | none => rw [hd] at h; cases h.2
    | some d =>
      rw [hd] at h
      exact ⟨d, rfl, by rw [if_neg hid]; exact h.2⟩

/-- **What each variable of a query is bound to.** If no conflict is noted and a call succeeds, then
there are as many values and type hints as parameters, and each variable is written as the
placeholder of a position, the sign and its decimal digits, so of this position alone. The type hint
there is the variable's own, and the value is the one given there by position, or else the one given
for its name, or else its own default: the very same if the variable is a copy of the first one of
its name, an equal one if not. -/
theorem bound_of_consistent (tokens : List Token) (options : CompileOptions) (args : Args)
    (b : BoundQuery) (hcopies : Copies (Token.params tokens))
    (hconsistent : (compile tokens options).ensureConsistent = .ok ())
    (hcall : (compile tokens options).call args = .ok b) :
    b.args.length = (compile tokens options).parameters.length ∧
      b.typeHints.length = (compile tokens options).parameters.length ∧
      b.sql = joinFragments (emit options.placeholder {} tokens).1 ∧
      ∀ (j : Nat) (x : Variable), tokens[j]? = some (.param x) →
        ∃ i v, 1 ≤ i ∧
          (emit options.placeholder {} tokens).1[j]? = some (placeholder options.placeholder i) ∧
          (placeholder options.placeholder i).toList =
            options.placeholder.sign :: Nat.toDigits 10 i ∧
          (∀ k, placeholder options.placeholder k = placeholder options.placeholder i → k = i) ∧
          b.typeHints[i - 1]? = some x.parameter.typeHint ∧
          b.args[i - 1]? = some v ∧
          if i ≤ args.positional.length then args.positional[i - 1]? = some v
          else
            match args.named.lookup x.name with
            | some w => v = w
            | none => ∃ d f, x.parameter.default = some d ∧
                first? (Token.params tokens) x.name = some f ∧
                if f.id = x.id then v = d else (v == d) = true := by
  have hparameters := compile_parameters tokens options
  have hconflicts := conflicts_eq_nil_of_consistent hconsistent
  rw [compile_conflicts] at hconflicts
  have hnames : ((compile tokens options).parameters.map (·.name)).Nodup := by
    rw [hparameters, parameters_names]
    exact nodup_distinctNames _
  obtain ⟨hlength, hsql, hhints, hargs⟩ := call_ok hnames hcall
  have hargslength : b.args.length = (compile tokens options).parameters.length := by
    have hmapped := congrArg List.length hargs
    simp only [List.length_map, List.length_append, List.length_drop] at hmapped
    omega
  refine ⟨hargslength, by rw [hhints, List.length_map], hsql, ?_⟩
  intro j x hj
  have hx : x ∈ Token.params tokens :=
    List.mem_filterMap.mpr ⟨.param x, List.mem_of_getElem? hj, rfl⟩
  obtain ⟨f, hf⟩ := exists_first?_of_mem hx
  have hagrees := agrees_of_consistent hcopies hconflicts hx hf
  -- the parameter at the position of the variable is that of the first one of its name
  have hparameter : (compile tokens options).parameters[position (Token.params tokens) x.name - 1]?
      = some f.parameter := by
    rw [hparameters]
    exact parameters_at_position hf
  have hlt : position (Token.params tokens) x.name - 1 < b.args.length := by
    rw [hargslength]
    exact (List.getElem?_eq_some_iff.mp hparameter).1
  have hvalue := List.getElem?_eq_getElem hlt
  refine ⟨position (Token.params tokens) x.name, _, Nat.succ_pos _, ?_, ?_, ?_, ?_, hvalue, ?_⟩
  · exact emit_param options.placeholder hj
  · exact toList_placeholder _
  · exact fun k => placeholder_inj.mp
  · rw [hhints, List.getElem?_map, hparameter, ← typeHint_of_agrees hagrees]
    rfl
  · have hat := value_at hargs hparameter hvalue
    have hpos : position (Token.params tokens) x.name - 1 < args.positional.length ↔
        position (Token.params tokens) x.name ≤ args.positional.length := Nat.succ_le_iff.symm
    simp only [hpos] at hat
    split
    · rename_i hi
      rw [if_pos hi] at hat
      exact hat
    · rename_i hi
      rw [if_neg hi, Variable.parameter_name, name_of_first? hf] at hat
      cases hlookup : args.named.lookup x.name with
      | some w =>
        rw [hlookup] at hat
        cases hat
        rfl
      | none =>
        rw [hlookup, Option.none_or] at hat
        obtain ⟨d, hd, hequal⟩ := default_of_agrees hagrees hat
        exact ⟨d, f, hd, hf, hequal⟩

/-- Two variables of one name declared alike, a copy of the first and a variable of another name. -/
def redeclared : List Token :=
  [.param ⟨⟨1⟩, "n", .value (.int32 1)⟩, .sql ",", .param ⟨⟨2⟩, "n", .value (.int32 1)⟩, .sql ",",
    .param ⟨⟨3⟩, "m", .required⟩, .sql ",", .param ⟨⟨1⟩, "n", .value (.int32 1)⟩]

/-- The second variable of a name gets its own default. -/
theorem bound_redeclared :
    Copies (Token.params redeclared) ∧
      (compile redeclared).ensureConsistent = .ok () ∧
      (compile redeclared).call { named := [("m", .text "v")] } =
        .ok ⟨"$1, $1, $2, $1", [.int32 1, .text "v"], [some .int32, none]⟩ ∧
      ∃ i v, 1 ≤ i ∧ (emit .dollar {} redeclared).1[2]? = some (placeholder .dollar i) ∧
        (placeholder .dollar i).toList = '$' :: Nat.toDigits 10 i ∧
        (∀ k, placeholder .dollar k = placeholder .dollar i → k = i) ∧
        [some ValueType.int32, none][i - 1]? = some (some ValueType.int32) ∧
        [Value.int32 1, .text "v"][i - 1]? = some v ∧
        if i ≤ 0 then ([] : List Value)[i - 1]? = some v
        else
          ∃ d f, some (Value.int32 1) = some d ∧
            first? (Token.params redeclared) "n" = some f ∧
            if f.id = ⟨2⟩ then v = d else (v == d) = true := by
  have hcopies : Copies (Token.params redeclared) := by
    intro x hx y hy hid
    simp only [redeclared, Token.params_param, Token.params_sql, Token.params_nil,
      List.mem_cons, List.not_mem_nil, or_false] at hx hy
    rcases hx with rfl | rfl | rfl | rfl <;> rcases hy with rfl | rfl | rfl | rfl <;>
      first | rfl | cases hid
  have hconsistent : (compile redeclared).ensureConsistent = .ok () := rfl
  have hcall : (compile redeclared).call { named := [("m", .text "v")] } =
      .ok ⟨"$1, $1, $2, $1", [.int32 1, .text "v"], [some .int32, none]⟩ := rfl
  exact ⟨hcopies, hconsistent, hcall,
    (bound_of_consistent redeclared {} _ _ hcopies hconsistent hcall).2.2.2 2
      ⟨⟨2⟩, "n", .value (.int32 1)⟩ rfl⟩

end ParamSql
