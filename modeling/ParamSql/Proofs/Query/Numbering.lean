import ParamSql.Proofs.Query.Sighting
import ParamSql.Query.Compile

/-!
# What compiling makes of tokens

Compiling walks over the tokens once and carries a table along. Here its results are said of the
tokens as a whole.

* `fragment` — the text of one token, given the place of each name.
* `emit_of_records` — the walk, from any table on that holds the variables before it.
* `compile_reference` — parameters, placeholders and conflicts of a query by first occurrences.
-/

set_option autoImplicit false

namespace ParamSql

open Sighting

/-- The text of a token, given the place of each name. -/
def fragment (style : PlaceholderStyle) (place : String → Nat) : Token → String
  | .sql text => text
  | .param x => placeholder style (place x.name)

/-- **The walk over tokens, from a table on that holds the variables before them**: it writes each
variable as the place of its name among all variables, before and after, and holds them all at the
end. -/
theorem emit_of_records (style : PlaceholderStyle) :
    ∀ (tokens : List Token) (t : ParameterTable) (xs : List Variable), Records t xs →
      (emit style t tokens).1 =
          tokens.map (fragment style (position (xs ++ Token.params tokens))) ∧
        Records (emit style t tokens).2 (xs ++ Token.params tokens)
  | [], t, xs, h => by
    refine ⟨rfl, ?_⟩
    rw [Token.params_nil, List.append_nil]
    exact h
  | .sql text :: tokens, t, xs, h => by
    obtain ⟨hfragments, htable⟩ := emit_of_records style tokens t xs h
    refine ⟨?_, htable⟩
    simp only [emit, hfragments, Token.params_sql, List.map_cons, fragment]
  | .param x :: tokens, t, xs, h => by
    obtain ⟨hposition, hregister⟩ := h.register x
    obtain ⟨hfragments, htable⟩ := emit_of_records style tokens _ _ hregister
    have hsplit : xs ++ Token.params (.param x :: tokens) =
        xs ++ [x] ++ Token.params tokens := by simp
    have hmem : x.name ∈ distinctNames (xs ++ [x]) :=
      mem_distinctNames.mpr ⟨x, by simp, rfl⟩
    rw [hsplit]
    refine ⟨?_, htable⟩
    simp only [emit, hfragments, hposition, List.map_cons, fragment,
      position_append_of_mem _ hmem]

variable (tokens : List Token) (options : CompileOptions)

theorem emit_fragments (style : PlaceholderStyle) :
    (emit style {} tokens).1 =
      tokens.map (fragment style (position (Token.params tokens))) :=
  (emit_of_records style tokens {} [] records_empty).1

/-- A variable is written as the placeholder of the position of its name. -/
theorem emit_param {tokens : List Token} {j : Nat} {x : Variable} (style : PlaceholderStyle)
    (h : tokens[j]? = some (.param x)) :
    (emit style {} tokens).1[j]? =
      some (placeholder style (position (Token.params tokens) x.name)) := by
  rw [emit_fragments, List.getElem?_map, h]
  rfl

theorem emit_records (style : PlaceholderStyle) :
    Records (emit style {} tokens).2 (Token.params tokens) :=
  (emit_of_records style tokens {} [] records_empty).2

theorem compile_text :
    (compile tokens options).text =
      joinFragments
        (tokens.map (fragment options.placeholder (position (Token.params tokens)))) := by
  rw [← emit_fragments]
  rfl

theorem compile_parameters :
    (compile tokens options).parameters = Sighting.parameters (Token.params tokens) :=
  (emit_records tokens options.placeholder).parameters

theorem compile_conflicts :
    (compile tokens options).conflicts = Sighting.conflicts (Token.params tokens) :=
  (emit_records tokens options.placeholder).conflicts

theorem params_map_param (xs : List Variable) : Token.params (xs.map .param) = xs := by
  induction xs with
  | nil => rfl
  | cons x xs ih => rw [List.map_cons, Token.params_param, ih]

/-- **The query of tokens, said without the walk that makes it.** The parameters are those of the
first variables of their names, in order. Each variable becomes the place of its name among them,
and these places, each taken when it first turns up, are `1, 2, …, n`. A place is written as the sign
of placeholders and its decimal digits, so no two are written alike. There is one conflict, in order,
for each variable that is no copy of the first one of its name and differs from it in the type hint
or the default. Pieces of SQL play no part in parameters and conflicts. -/
theorem compile_reference (tokens : List Token) (options : CompileOptions) :
    let xs := Token.params tokens
    let q := compile tokens options
    let names := q.parameters.map (·.name)
    let place := fun name : String => names.idxOf name + 1
    (q.parameters = Sighting.parameters xs ∧ names = distinctNames xs ∧ names.Nodup) ∧
    ((emit options.placeholder {} tokens).1 = tokens.map (fragment options.placeholder place) ∧
      q.text = joinFragments (tokens.map (fragment options.placeholder place)) ∧
      (xs.map fun x => place x.name).eraseDups = List.range' 1 q.parameters.length) ∧
    ((∀ (j : Nat) (x : Variable), tokens[j]? = some (.param x) →
        (emit options.placeholder {} tokens).1[j]? =
          some (String.ofList (options.placeholder.sign :: Nat.toDigits 10 (place x.name)))) ∧
      ∀ n k, placeholder options.placeholder n = placeholder options.placeholder k ↔ n = k) ∧
    q.conflicts = Sighting.conflicts xs ∧
    ((compile (xs.map .param) options).parameters = q.parameters ∧
      (compile (xs.map .param) options).conflicts = q.conflicts) := by
  intro xs q names place
  have hparameters : q.parameters = Sighting.parameters xs := compile_parameters tokens options
  have hnames : names = distinctNames xs := by
    show q.parameters.map (·.name) = _
    rw [hparameters, parameters_names]
  have hplace : place = position xs := by
    funext name
    show names.idxOf name + 1 = _
    rw [hnames, position]
  have hconflicts : q.conflicts = Sighting.conflicts xs := compile_conflicts tokens options
  refine ⟨⟨hparameters, hnames, ?_⟩, ⟨?_, ?_, ?_⟩, ⟨?_, fun _ _ => placeholder_inj⟩, hconflicts,
    ?_, ?_⟩
  · rw [hnames]
    exact nodup_distinctNames xs
  · rw [hplace]
    exact emit_fragments tokens _
  · rw [hplace]
    exact compile_text tokens options
  · rw [hplace, hparameters, length_parameters]
    exact eraseDups_positions xs
  · intro j x hj
    rw [hplace, ← toList_placeholder, String.ofList_toList]
    exact emit_param options.placeholder hj
  · rw [compile_parameters, params_map_param, hparameters]
  · rw [compile_conflicts, params_map_param, hconflicts]

end ParamSql
