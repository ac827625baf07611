import ParamSql.Proofs.Query.Identity
import ParamSql.Query.Bind

/-!
# Equal queries are called alike

Whatever arguments a call gives, two equal queries fail with the same error or are bound to the same
text, the same type hints and values that equal one another.

* `OutcomesAlike` — outcomes that are the same failure or related results.
* `fill_alike` — filling equal parameters from the same keywords.
* `CompiledQuery.call_alike`, `CompiledQuery.ensureConsistent_eq` — calling and checking equal
  queries.
-/

set_option autoImplicit false

namespace ParamSql

/-! ## Outcomes -/

/-- Two outcomes are the same failure, or results that are related. -/
inductive OutcomesAlike {α : Type} (related : α → α → Prop) :
    Except Error α → Except Error α → Prop
  | failed (e : Error) : OutcomesAlike related (.error e) (.error e)
  | done {a b : α} (h : related a b) : OutcomesAlike related (.ok a) (.ok b)

theorem OutcomesAlike.map {α β : Type} {related : α → α → Prop} {related' : β → β → Prop}
    {x y : Except Error α} {f g : α → β} (h : OutcomesAlike related x y)
    (hfg : ∀ a b, related a b → related' (f a) (g b)) :
    OutcomesAlike related' (x.map f) (y.map g) := by
  cases h with
  | failed e => exact .failed e
  | done hab => exact .done (hfg _ _ hab)

/-! ## Equal parameters and conflicts -/

theorem option_beq_iff {α : Type} [BEq α] {a b : Option α} :
    (a == b) = true ↔ Option.Rel (fun x y => (x == y) = true) a b := by
  cases a <;> cases b
  case none.none => exact iff_of_true rfl .none
  case some.some x y =>
    rw [Option.some_beq_some]
    exact ⟨fun h => .some h, fun | .some h => h⟩
  all_goals exact iff_of_false nofun nofun

theorem Parameter.eq_iff {p q : Parameter} :
    p.eq q = true ↔ p.name = q.name ∧ p.typeHint = q.typeHint ∧
      Option.Rel (fun v w => (v == w) = true) p.default q.default := by
  rw [Parameter.eq, Bool.and_eq_true, beq_iff_eq, sameDefinition_iff, option_beq_iff]

theorem Conflict.eq_iff {c d : Conflict} :
    c.eq d = true ↔ c.name = d.name ∧ c.kept.eq d.kept = true ∧ c.ignored.eq d.ignored = true := by
  rw [Conflict.eq, Bool.and_eq_true, Bool.and_eq_true, beq_iff_eq, and_assoc]

/-- Values that are the same or equal. NaN given by the caller is the same as itself, although it
equals nothing. -/
def Value.Alike (v w : Value) : Prop := v = w ∨ (v == w) = true

/-- Equal parameters, filled from the same keywords, get values that are alike. -/
theorem fill_alike {ps qs : List Parameter} (h : List.Forall₂ (fun p q => p.eq q = true) ps qs) :
    ∀ named : List (String × Value),
      OutcomesAlike (fun a b => List.Forall₂ Value.Alike a.1 b.1 ∧ a.2 = b.2)
        (fill ps named) (fill qs named) := by
  induction h with
  | nil => exact fun named => .done ⟨.nil, rfl⟩
  | @cons p q ps qs hpq _ ih =>
    intro named
    obtain ⟨hname, -, hdefault⟩ := Parameter.eq_iff.mp hpq
    rw [fill, fill, hname]
    cases takeNamed? q.name named with
    | some taken =>
      refine (ih taken.2).map ?_
      rintro a b ⟨hvalues, hleft⟩
      exact ⟨.cons (.inl rfl) hvalues, hleft⟩
    | none =>
      generalize p.default = v at hdefault
      generalize q.default = w at hdefault
      cases hdefault with
      | none => exact .failed _
      | some hvw =>
        refine (ih named).map ?_
        rintro a b ⟨hvalues, hleft⟩
        exact ⟨.cons (.inr hvw) hvalues, hleft⟩

theorem typeHints_eq {ps qs : List Parameter}
    (h : List.Forall₂ (fun p q => p.eq q = true) ps qs) :
    ps.map (·.typeHint) = qs.map (·.typeHint) := by
  induction h with
  | nil => rfl
  | cons hpq _ ih =>
    rw [List.map_cons, List.map_cons, (Parameter.eq_iff.mp hpq).2.1, ih]

/-! ## Equal queries -/

/-- Bound queries with the same text and the same type hints, whose values are alike in turn. -/
structure BoundQuery.Alike (a b : BoundQuery) : Prop where
  sql : a.sql = b.sql
  args : List.Forall₂ Value.Alike a.args b.args
  typeHints : a.typeHints = b.typeHints

namespace CompiledQuery

variable {q r : CompiledQuery}

/-- **Equal queries are called alike**, whatever the arguments. -/
theorem call_alike (h : q.eq r = true) (args : Args) :
    OutcomesAlike BoundQuery.Alike (q.call args) (r.call args) := by
  obtain ⟨htext, hparameters, -⟩ := eq_iff.mp h
  rw [call, call, hparameters.length_eq]
  split
  · exact .failed _
  · have hfill := fill_alike (List.forall₂_drop args.positional.length hparameters) args.named
    generalize fill (q.parameters.drop _) args.named = x at hfill ⊢
    generalize fill (r.parameters.drop _) args.named = y at hfill ⊢
    cases hfill with
    | failed e => exact .failed e
    | @done a b hab =>
      obtain ⟨values, left⟩ := a
      obtain ⟨values', left'⟩ := b
      obtain ⟨hvalues, rfl : left = left'⟩ := hab
      cases left with
      | nil =>
        refine .done ⟨htext, ?_, typeHints_eq hparameters⟩
        exact List.rel_append (List.forall₂_same.mpr fun _ _ => .inl rfl) hvalues
      | cons pair left => exact .failed _

/-- Equal queries are consistent alike: the first conflict, if there is one, has the same name. -/
theorem ensureConsistent_eq (h : q.eq r = true) : q.ensureConsistent = r.ensureConsistent := by
  obtain ⟨-, -, hconflicts⟩ := eq_iff.mp h
  rw [ensureConsistent, ensureConsistent]
  generalize q.conflicts = cs at hconflicts
  generalize r.conflicts = ds at hconflicts
  cases hconflicts with
  | nil => rfl
  | cons hcd _ => simp only [(Conflict.eq_iff.mp hcd).1]

end CompiledQuery

end ParamSql
