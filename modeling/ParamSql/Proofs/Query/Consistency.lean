import ParamSql.Proofs.Query.Binding
import ParamSql.Proofs.Value.Equality

/-!
# Conflicts between any two variables

A variable is compared with the first one of its name alone, so the conflicts that are noted depend
on the order of the variables. Whether there are any does not.

* `Compatible` — two variables that are copies of each other or declared alike.
* `compatible_of_first` — what gets on with the same variable gets on with each other.
* `conflicts_eq_nil_iff` — no conflict with first variables means none between any two.
* `ensureConsistent_iff_compatible` — so a query is consistent in every order of its tokens or in
  none.
-/

set_option autoImplicit false

namespace ParamSql

open Sighting

/-- Two variables are copies of each other or declared alike. -/
def Compatible (x y : Variable) : Prop :=
  x.id = y.id ∨ x.parameter.sameDefinition y.parameter = true

theorem compatible_iff {x y : Variable} :
    Compatible x y ↔ x.id = y.id ∨
      x.parameter.typeHint = y.parameter.typeHint ∧
        (x.parameter.default == y.parameter.default) = true := by
  rw [Compatible, Parameter.sameDefinition_iff]

/-- Any two variables of one name are compatible. -/
def AllCompatible (xs : List Variable) : Prop :=
  ∀ x ∈ xs, ∀ y ∈ xs, x.name = y.name → Compatible x y

section

variable {xs ys : List Variable}

/-- Two variables compatible with a third are so with each other: a copy of it may stand for it, and
being declared alike is symmetric and transitive. -/
theorem compatible_of_first (hcopies : Copies xs) {f x y : Variable} (hf : f ∈ xs) (hx : x ∈ xs)
    (hy : y ∈ xs) (hfx : Compatible f x) (hfy : Compatible f y) : Compatible x y := by
  rcases hfx with hid | hfx
  · obtain rfl := hcopies f hf x hx hid
    exact hfy
  · rcases hfy with hid | hfy
    · obtain rfl := hcopies f hf y hy hid
      exact Or.inr (Parameter.sameDefinition_symm hfx)
    · exact Or.inr (Parameter.sameDefinition_trans (Parameter.sameDefinition_symm hfx) hfy)

/-- A variable compatible with the first one of its name has no conflict. -/
theorem conflict?_eq_none {x f : Variable} (hf : first? xs x.name = some f)
    (h : Compatible f x) : Sighting.conflict? xs x = none := by
  rw [Sighting.conflict?, hf, Option.bind_some]
  exact if_pos (compatible_iff.mp h)

/-- Any other variable has one. -/
theorem conflict?_eq_some {x f : Variable} (hf : first? xs x.name = some f)
    (h : ¬Compatible f x) :
    Sighting.conflict? xs x = some ⟨x.name, f.parameter, x.parameter⟩ := by
  rw [Sighting.conflict?, hf, Option.bind_some]
  exact if_neg (mt compatible_iff.mpr h)

theorem conflict?_eq_none_iff {x f : Variable} (hf : first? xs x.name = some f) :
    Sighting.conflict? xs x = none ↔ Compatible f x := by
  refine ⟨fun h => ?_, conflict?_eq_none hf⟩
  by_contra hnot
  rw [conflict?_eq_some hf hnot] at h
  cases h

/-- **No variable is in conflict with the first one of its name exactly if no two variables of one
name are in conflict.** -/
theorem conflicts_eq_nil_iff (hcopies : Copies xs) :
    Sighting.conflicts xs = [] ↔ AllCompatible xs := by
  rw [Sighting.conflicts, List.filterMap_eq_nil_iff]
  constructor
  · intro h x hx y hy hname
    obtain ⟨f, hf⟩ := exists_first?_of_mem hx
    have hfy : first? xs y.name = some f := hname ▸ hf
    exact compatible_of_first hcopies (mem_of_first? hf) hx hy
      ((conflict?_eq_none_iff hf).mp (h x hx)) ((conflict?_eq_none_iff hfy).mp (h y hy))
  · intro h x hx
    obtain ⟨f, hf⟩ := exists_first?_of_mem hx
    exact (conflict?_eq_none_iff hf).mpr (h f (mem_of_first? hf) x hx (name_of_first? hf))

/-- A conflict bears the name of two variables that are not compatible. -/
theorem exists_not_compatible {c : Conflict} (h : c ∈ Sighting.conflicts xs) :
    ∃ x ∈ xs, ∃ y ∈ xs, x.name = y.name ∧ ¬Compatible x y ∧ c.name = x.name := by
  obtain ⟨y, hy, hc⟩ := List.mem_filterMap.mp h
  obtain ⟨f, hf⟩ := exists_first?_of_mem hy
  have hnot : ¬Compatible f y := by
    intro hcompatible
    rw [conflict?_eq_none hf hcompatible] at hc
    cases hc
  rw [conflict?_eq_some hf hnot] at hc
  cases hc
  exact ⟨f, mem_of_first? hf, y, hy, name_of_first? hf, hnot, (name_of_first? hf).symm⟩

theorem AllCompatible.perm (h : xs.Perm ys) : AllCompatible xs ↔ AllCompatible ys := by
  simp only [AllCompatible, h.mem_iff]

theorem Copies.perm (h : xs.Perm ys) (hcopies : Copies xs) : Copies ys := by
  simpa only [Copies, h.mem_iff] using hcopies

end

theorem ensureConsistent_eq_ok_iff (q : CompiledQuery) :
    q.ensureConsistent = .ok () ↔ q.conflicts = [] := by
  refine ⟨conflicts_eq_nil_of_consistent, fun h => ?_⟩
  rw [CompiledQuery.ensureConsistent, h]

theorem ensureConsistent_eq_ok_iff_allCompatible {tokens : List Token}
    (hcopies : Copies (Token.params tokens)) (options : CompileOptions) :
    (compile tokens options).ensureConsistent = .ok () ↔ AllCompatible (Token.params tokens) := by
  rw [ensureConsistent_eq_ok_iff, compile_conflicts, conflicts_eq_nil_iff hcopies]

/-- **A query is consistent exactly if any two of its variables of one name are copies of each other
or have one type hint and equal defaults**, although each is compared with the first one alone. So
the order of its tokens does not matter, and where the query is not consistent, the name reported is
that of two variables that are no copies and differ in the type hint or the default. -/
theorem ensureConsistent_iff_compatible (tokens : List Token) (options : CompileOptions)
    (hcopies : Copies (Token.params tokens)) :
    let xs := Token.params tokens
    let q := compile tokens options
    (q.ensureConsistent = .ok () ↔
      ∀ x ∈ xs, ∀ y ∈ xs, x.name = y.name →
        x.id = y.id ∨
          x.parameter.typeHint = y.parameter.typeHint ∧
            (x.parameter.default == y.parameter.default) = true) ∧
    (∀ tokens' options', tokens.Perm tokens' →
      ((compile tokens' options').ensureConsistent = .ok () ↔ q.ensureConsistent = .ok ())) ∧
    ∀ e, q.ensureConsistent = .error e →
      ∃ x ∈ xs, ∃ y ∈ xs, x.name = y.name ∧ x.id ≠ y.id ∧
        (x.parameter.typeHint ≠ y.parameter.typeHint ∨
          (x.parameter.default == y.parameter.default) = false) ∧
        e = .conflictingDefinitions x.name := by
  intro xs q
  refine ⟨?_, ?_, ?_⟩
  · rw [ensureConsistent_eq_ok_iff_allCompatible hcopies options]
    simp only [AllCompatible, compatible_iff, xs]
  · intro tokens' options' hperm
    have hparams : xs.Perm (Token.params tokens') := hperm.filterMap _
    rw [ensureConsistent_eq_ok_iff_allCompatible (hcopies.perm hparams),
      ensureConsistent_eq_ok_iff_allCompatible hcopies, AllCompatible.perm hparams]
  · intro e he
    unfold CompiledQuery.ensureConsistent at he
    split at he
    · cases he
    · rename_i c more hconflicts
      cases he
      have hmem : c ∈ Sighting.conflicts xs := by
        rw [← compile_conflicts tokens options, hconflicts]
        exact List.mem_cons_self
      obtain ⟨x, hx, y, hy, hname, hnot, hc⟩ := exists_not_compatible hmem
      rw [compatible_iff, not_or, not_and_or, Bool.not_eq_true] at hnot
      exact ⟨x, hx, y, hy, hname, hnot.1, hnot.2, by rw [hc]⟩

/-- A price given as 1.0 and as 1.00, and two variables of one name that both default to NaN. -/
def twiceNaN : List Token :=
  let nan : Default := .value (.float64 ⟨0x7ff8000000000000⟩)
  [.param ⟨⟨1⟩, "price", .value (.decimal ⟨false, 10, 1⟩)⟩, .param ⟨⟨2⟩, "rate", nan⟩, .sql "+",
    .param ⟨⟨3⟩, "price", .value (.decimal ⟨false, 100, 2⟩)⟩, .param ⟨⟨4⟩, "rate", nan⟩]

/-- In every order the rates are in conflict, since NaN does not equal itself. -/
theorem conflict_twiceNaN :
    Copies (Token.params twiceNaN) ∧
      (compile twiceNaN).ensureConsistent = .error (.conflictingDefinitions "rate") ∧
      ∀ tokens' options', twiceNaN.Perm tokens' →
        (compile tokens' options').ensureConsistent ≠ .ok () := by
  have hcopies : Copies (Token.params twiceNaN) := by
    intro x hx y hy hid
    simp only [twiceNaN, Token.params_param, Token.params_sql, Token.params_nil, List.mem_cons,
      List.not_mem_nil, or_false] at hx hy
    rcases hx with rfl | rfl | rfl | rfl <;> rcases hy with rfl | rfl | rfl | rfl <;>
      first | rfl | cases hid
  have herror : (compile twiceNaN).ensureConsistent = .error (.conflictingDefinitions "rate") := rfl
  refine ⟨hcopies, herror, fun tokens' options' hperm hok => ?_⟩
  have hsame := (ensureConsistent_iff_compatible twiceNaN {} hcopies).2.1 tokens' options' hperm
  rw [hsame.mp hok] at herror
  cases herror

end ParamSql
