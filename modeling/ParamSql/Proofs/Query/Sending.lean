import ParamSql.Proofs.Query.Binding
import ParamSql.Query.HandOff

/-!
# What the driver takes

Arguments and type hints are two lists, which need not have the same length, and an argument is sent
with the hint at its own place.

* `Unsendable`, `sentAs` — a value that cannot be sent under a hint, and what any other is sent as.
* `sendEach_spec` — all arguments are sent, or one of them cannot be.
* `Variable.typeHint_parameter_iff`, `Sighting.exists_first?_of_getElem?` — where the hints of a
  query come from: the first variables of their names.
* `handOff_iff` — when a query can be handed off, and what is sent then.
-/

set_option autoImplicit false

namespace ParamSql

open Sighting

/-! ## One argument after the other -/

/-- The type hinted at for a place; none where there is no hint. -/
def hintAt (hints : List (Option ValueType)) (i : Nat) : Option ValueType := hints[i]?.join

/-- A value that cannot be sent under a hint: an array, and NULL as an array. -/
inductive Unsendable : Value → Option ValueType → Prop
  | array (items : List Value) (hint : Option ValueType) : Unsendable (.array items) hint
  | null : Unsendable .null (some .array)

/-- The argument that a value is sent as: NULL with the type hinted at, or else as a text. -/
def sentAs (v : Value) (hint : Option ValueType) : SentArgument :=
  if v.isNull then .null (hint.getD .text) else .value v

/-- **A value is refused if it cannot be sent, and sent as it is or as a typed NULL if it can.** -/
theorem SentArgument.of_spec (v : Value) (hint : Option ValueType) :
    (Unsendable v hint ∧ SentArgument.of v hint = .error (.unsupportedType .array)) ∨
      (¬Unsendable v hint ∧ SentArgument.of v hint = .ok (sentAs v hint)) := by
  cases v with
  | array items => exact .inl ⟨.array items hint, rfl⟩
  | null =>
    by_cases hhint : hint = some .array
    · subst hhint
      exact .inl ⟨.null, rfl⟩
    · refine .inr ⟨?_, ?_⟩
      · rintro ⟨⟩
        exact hhint rfl
      · unfold SentArgument.of
        split
        · exact absurd rfl hhint
        · rfl
        all_goals contradiction
  | _ => exact .inr ⟨nofun, rfl⟩

theorem hintAt_tail (hints : List (Option ValueType)) (i : Nat) :
    hintAt hints.tail i = hintAt hints (i + 1) := by
  rw [hintAt, List.getElem?_tail, hintAt]

theorem sendEach_cons (v : Value) (vs : List Value) (hints : List (Option ValueType)) :
    sendEach (v :: vs) hints =
      (SentArgument.of v (hintAt hints 0)).bind fun sent =>
        (sendEach vs hints.tail).map (sent :: ·) := by
  rw [hintAt, ← List.head?_eq_getElem?]
  rfl

/-- **All arguments are sent, each with the hint at its place, or one of them cannot be.** -/
theorem sendEach_spec : ∀ (vs : List Value) (hints : List (Option ValueType)),
    ((∃ i v, vs[i]? = some v ∧ Unsendable v (hintAt hints i)) ∧
        sendEach vs hints = .error (.unsupportedType .array)) ∨
      ((∀ i v, vs[i]? = some v → ¬Unsendable v (hintAt hints i)) ∧
        sendEach vs hints = .ok (vs.mapIdx fun i v => sentAs v (hintAt hints i)))
  | [], _ => .inr ⟨nofun, rfl⟩
  | v :: vs, hints => by
    rw [sendEach_cons]
    rcases SentArgument.of_spec v (hintAt hints 0) with ⟨hv, hof⟩ | ⟨hv, hof⟩
    · rw [hof]
      exact .inl ⟨⟨0, v, rfl, hv⟩, rfl⟩
    · rw [hof]
      rcases sendEach_spec vs hints.tail with ⟨⟨i, w, hw, hbad⟩, hsend⟩ | ⟨hall, hsend⟩
      · rw [hsend]
        refine .inl ⟨⟨i + 1, w, hw, ?_⟩, rfl⟩
        rw [← hintAt_tail]
        exact hbad
      · rw [hsend]
        refine .inr ⟨?_, ?_⟩
        · intro i w hw
          cases i with
          | zero =>
            obtain rfl := Option.some.inj hw
            exact hv
          | succ i =>
            rw [← hintAt_tail]
            exact hall i w hw
        · rw [List.mapIdx_cons]
          simp only [hintAt_tail]
          rfl

/-! ## Where the hints of a query come from -/

/-- A variable asks for an array if it is declared to be one, by its type or by its value. -/
theorem Variable.typeHint_parameter_iff {x : Variable} :
    x.parameter.typeHint = some .array ↔
      x.default = .typed .array ∨ ∃ items, x.default = .value (.array items) := by
  unfold parameter
  cases x.default with
  | required => simp
  | null => simp
  | typed t => simp
  | value v => cases v <;> simp [Value.type?]

/-- At each place stands the parameter of the first variable of its name. -/
theorem Sighting.exists_first?_of_getElem? {xs : List Variable} {i : Nat} {p : Parameter}
    (h : (parameters xs)[i]? = some p) :
    ∃ f, first? xs f.name = some f ∧ f.parameter = p ∧ position xs f.name = i + 1 := by
  have hname : (distinctNames xs)[i]? = some p.name := by
    rw [← parameters_names, List.getElem?_map, h]
    rfl
  obtain ⟨hi, hget⟩ := List.getElem?_eq_some_iff.mp hname
  have hmem : p.name ∈ distinctNames xs := hget ▸ List.getElem_mem hi
  obtain ⟨f, hf⟩ := Option.isSome_iff_exists.mp (first?_isSome.mpr hmem)
  have hposition : position xs p.name = i + 1 := by
    rw [position, ← hget, (nodup_distinctNames xs).idxOf_getElem i hi]
  have hat := parameters_at_position hf
  rw [hposition, Nat.add_sub_cancel, h] at hat
  obtain rfl : p = f.parameter := Option.some.inj hat
  rw [Variable.parameter_name] at hf hposition
  exact ⟨f, hf, rfl, hposition⟩

theorem compile_names_nodup (tokens : List Token) (options : CompileOptions) :
    ((compile tokens options).parameters.map (·.name)).Nodup := by
  rw [compile_parameters, parameters_names]
  exact nodup_distinctNames _

/-- A bound query hints at an array where the first variable of a name is declared to be one. -/
theorem typeHints_eq_array_iff {tokens : List Token} {options : CompileOptions} {args : Args}
    {b : BoundQuery} (h : (compile tokens options).call args = .ok b) (i : Nat) :
    b.typeHints[i]? = some (some .array) ↔
      ∃ f, first? (Token.params tokens) f.name = some f ∧
        position (Token.params tokens) f.name = i + 1 ∧
        (f.default = .typed .array ∨ ∃ items, f.default = .value (.array items)) := by
  obtain ⟨-, -, hhints, -⟩ := call_ok (compile_names_nodup tokens options) h
  rw [hhints, compile_parameters, List.getElem?_map, Option.map_eq_some_iff]
  constructor
  · rintro ⟨p, hp, hhint⟩
    obtain ⟨f, hf, rfl, hposition⟩ := exists_first?_of_getElem? hp
    exact ⟨f, hf, hposition, Variable.typeHint_parameter_iff.mp hhint⟩
  · rintro ⟨f, hf, hposition, hdeclared⟩
    have hat := parameters_at_position hf
    rw [hposition, Nat.add_sub_cancel] at hat
    exact ⟨f.parameter, hat, Variable.typeHint_parameter_iff.mpr hdeclared⟩

/-! ## Handing off -/

theorem hintAt_eq_some_iff {hints : List (Option ValueType)} {i : Nat} {t : ValueType} :
    hintAt hints i = some t ↔ hints[i]? = some (some t) := by
  unfold hintAt
  exact Option.join_eq_some_iff

/-- An argument cannot be sent just if one is an array or NULL stands where an array is hinted at. -/
theorem exists_unsendable_iff (vs : List Value) (hints : List (Option ValueType)) :
    (∃ i v, vs[i]? = some v ∧ Unsendable v (hintAt hints i)) ↔
      (∃ items, .array items ∈ vs) ∨
        ∃ i : Nat, vs[i]? = some .null ∧ hints[i]? = some (some .array) := by
  constructor
  · rintro ⟨i, v, hv, hbad⟩
    generalize hhint : hintAt hints i = hint at hbad
    cases hbad with
    | array items => exact .inl ⟨items, List.mem_of_getElem? hv⟩
    | null => exact .inr ⟨i, hv, hintAt_eq_some_iff.mp hhint⟩
  · rintro (⟨items, hmem⟩ | ⟨i, hv, hhint⟩)
    · obtain ⟨i, hi⟩ := List.mem_iff_getElem?.mp hmem
      exact ⟨i, _, hi, .array items _⟩
    · refine ⟨i, _, hv, ?_⟩
      rw [hintAt_eq_some_iff.mpr hhint]
      exact .null

/-- **When a bound query can be handed off.** It can just if none of its arguments is an array and
none is a NULL with an array hinted at in its place; the error is always the same. What is sent then
is one argument for each value, in order: NULL with the type hinted at in its own place or else as a
text, any other value as it is. For a query that tokens were compiled to and a call has bound, the
hints are those of the first variables of their names. -/
theorem handOff_iff (b : BoundQuery) :
    ((∃ sent, b.handOff = .ok sent) ↔
      (∀ items, .array items ∉ b.args) ∧
        ∀ i : Nat, b.args[i]? = some .null → b.typeHints[i]? ≠ some (some .array)) ∧
    (∀ e, b.handOff = .error e → e = .unsupportedType .array) ∧
    (∀ sent, b.handOff = .ok sent → sent = b.args.mapIdx fun i v =>
      if v.isNull then .null (b.typeHints[i]?.join.getD .text) else .value v) ∧
    ∀ tokens options args, (compile tokens options).call args = .ok b →
      ((∃ e, b.handOff = .error e) ↔
        (∃ items, .array items ∈ b.args) ∨
          ∃ f, first? (Token.params tokens) f.name = some f ∧
            b.args[position (Token.params tokens) f.name - 1]? = some .null ∧
            (f.default = .typed .array ∨ ∃ items, f.default = .value (.array items))) := by
  have hrefused := exists_unsendable_iff b.args b.typeHints
  have hfails : (∃ e, b.handOff = .error e) ↔
      (∃ items, .array items ∈ b.args) ∨
        ∃ i : Nat, b.args[i]? = some .null ∧ b.typeHints[i]? = some (some .array) := by
    rw [← hrefused]
    rcases sendEach_spec b.args b.typeHints with ⟨hbad, hsend⟩ | ⟨hall, hsend⟩
    · exact iff_of_true ⟨_, hsend⟩ hbad
    · refine iff_of_false ?_ ?_
      · rintro ⟨e, he⟩
        rw [BoundQuery.handOff, hsend] at he
        cases he
      · rintro ⟨i, v, hv, hbad⟩
        exact hall i v hv hbad
  refine ⟨?_, ?_, ?_, ?_⟩
  · have hok : (∃ sent, b.handOff = .ok sent) ↔ ¬∃ e, b.handOff = .error e := by
      cases b.handOff <;> simp
    rw [hok, hfails]
    simp only [not_or, not_exists, not_and, ne_eq]
  · intro e he
    rcases sendEach_spec b.args b.typeHints with ⟨-, hsend⟩ | ⟨-, hsend⟩
    · exact Except.error.inj (he.symm.trans hsend)
    · cases he.symm.trans hsend
  · intro sent hsent
    rcases sendEach_spec b.args b.typeHints with ⟨-, hsend⟩ | ⟨-, hsend⟩
    · cases hsent.symm.trans hsend
    · exact Except.ok.inj (hsent.symm.trans hsend)
  · intro tokens options args hcall
    rw [hfails]
    refine or_congr Iff.rfl ?_
    simp only [typeHints_eq_array_iff hcall]
    constructor
    · rintro ⟨i, hnull, f, hf, hposition, hdeclared⟩
      refine ⟨f, hf, ?_, hdeclared⟩
      rw [hposition, Nat.add_sub_cancel]
      exact hnull
    · rintro ⟨f, hf, hnull, hdeclared⟩
      exact ⟨_, hnull, f, hf, rfl, hdeclared⟩

/-- A name that is declared twice, the second time by another variable. -/
def tagged (first second : Default) : List Token :=
  [.sql "SET tags =", .param ⟨⟨1⟩, "tags", first⟩, .sql ",", .sql "n =",
    .param ⟨⟨2⟩, "n", .typed .int64⟩, .sql "WHERE tags <>", .param ⟨⟨3⟩, "tags", second⟩]

/-- NULL is refused for a name first declared an array, and not for one declared so later. -/
theorem handOff_tagged :
    let bound := fun hint : Option ValueType =>
      BoundQuery.mk "SET tags = $1, n = $2 WHERE tags <> $1" [.null, .null] [hint, some .int64]
    let args := Args.ofValues [.null, .null]
    ((compile (tagged (.typed .array) .null)).call args = .ok (bound (some .array)) ∧
      ∃ e, (bound (some .array)).handOff = .error e) ∧
    (compile (tagged .null (.typed .array))).call args = .ok (bound none) ∧
      ∃ sent, (bound none).handOff = .ok sent := by
  intro bound args
  have hfirst : (compile (tagged (.typed .array) .null)).call args =
      .ok (bound (some .array)) := rfl
  have hlater : (compile (tagged .null (.typed .array))).call args = .ok (bound none) := rfl
  obtain ⟨-, -, -, hbound⟩ := handOff_iff (bound (some .array))
  refine ⟨⟨hfirst, (hbound _ {} args hfirst).mpr ?_⟩, hlater, (handOff_iff (bound none)).1.mpr ?_⟩
  · exact .inr ⟨⟨⟨1⟩, "tags", .typed .array⟩, rfl, rfl, .inl rfl⟩
  · refine ⟨by simp [bound], fun i hnull => ?_⟩
    match i, hnull with
    | 0, _ | 1, _ => simp [bound]

end ParamSql
