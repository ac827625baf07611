import Mathlib.Data.List.Induction
import Mathlib.Data.List.Nodup
import ParamSql.Query.ParameterTable

/-!
# Parameter tables by their sightings

What a parameter table holds, said of the list of all variables registered so far and not of the way
the table was built.

* `distinctNames`, `position` — the names in order of first occurrence, and the place of one.
* `first?`, `parameters` — the variable that decides a name, and the parameters so decided.
* `conflicts` — one for each variable at odds with the first of its name, in order.
* `Records` — a table that holds exactly this; `Records.register` says that registering one more
  variable keeps it so.
-/

set_option autoImplicit false

namespace ParamSql

namespace Sighting

/-- The names of variables in order of first occurrence. -/
def distinctNames (xs : List Variable) : List String := (xs.map (·.name)).eraseDups

/-- The first variable of a name. -/
def first? (xs : List Variable) (name : String) : Option Variable := xs.find? (·.name == name)

/-- The place of a name among the distinct ones, counted from one. -/
def position (xs : List Variable) (name : String) : Nat := (distinctNames xs).idxOf name + 1

/-- The parameters that the first variables of their names ask for. -/
def parameters (xs : List Variable) : List Parameter :=
  (distinctNames xs).filterMap fun name => (first? xs name).map (·.parameter)

/-- The conflict of a variable with the first one of its name: they are not copies of each other, and
they differ in the type hint or the default. -/
def conflict? (xs : List Variable) (x : Variable) : Option Conflict :=
  (first? xs x.name).bind fun f =>
    if f.id = x.id ∨
        f.parameter.typeHint = x.parameter.typeHint ∧
          (f.parameter.default == x.parameter.default) = true
    then none
    else some ⟨x.name, f.parameter, x.parameter⟩

/-- The conflicts of variables with the first ones of their names, in order. -/
def conflicts (xs : List Variable) : List Conflict := xs.filterMap (conflict? xs)

/-! ## Distinct names -/

theorem eraseDups_concat {α : Type} [DecidableEq α] (as : List α) (a : α) :
    (as ++ [a]).eraseDups = if a ∈ as then as.eraseDups else as.eraseDups ++ [a] := by
  rw [List.eraseDups_append]
  by_cases h : a ∈ as
  · simp [List.removeAll, h]
  · simp [List.removeAll, h, List.eraseDups_cons]

theorem nodup_eraseDups {α : Type} [DecidableEq α] (as : List α) : as.eraseDups.Nodup := by
  induction as using List.reverseRecOn with
  | nil => exact List.nodup_nil
  | append_singleton as a ih =>
    rw [eraseDups_concat]
    split
    · exact ih
    · rename_i h
      rw [List.nodup_append]
      refine ⟨ih, List.nodup_singleton _, ?_⟩
      intro b ha c hb hab
      rw [List.mem_singleton] at hb
      subst hb hab
      exact h (List.mem_eraseDups.mp ha)

theorem nodup_distinctNames (xs : List Variable) : (distinctNames xs).Nodup := nodup_eraseDups _

theorem mem_distinctNames {xs : List Variable} {name : String} :
    name ∈ distinctNames xs ↔ ∃ x ∈ xs, x.name = name := by
  simp [distinctNames, List.mem_eraseDups]

theorem distinctNames_concat (xs : List Variable) (x : Variable) :
    distinctNames (xs ++ [x]) =
      if x.name ∈ distinctNames xs then distinctNames xs else distinctNames xs ++ [x.name] := by
  simp only [distinctNames, List.map_append, List.map_cons, List.map_nil, List.mem_eraseDups]
  exact eraseDups_concat _ _

/-- Later variables leave the names seen before where they are. -/
theorem distinctNames_append (xs ys : List Variable) :
    ∃ more, distinctNames (xs ++ ys) = distinctNames xs ++ more := by
  rw [distinctNames, List.map_append, List.eraseDups_append]
  exact ⟨_, rfl⟩

/-! ## First variables -/

theorem first?_isSome {xs : List Variable} {name : String} :
    (first? xs name).isSome = true ↔ name ∈ distinctNames xs := by
  rw [first?, List.find?_isSome, mem_distinctNames]
  simp

theorem first?_eq_none {xs : List Variable} {name : String} :
    first? xs name = none ↔ name ∉ distinctNames xs := by
  rw [← first?_isSome]
  simp

theorem name_of_first? {xs : List Variable} {name : String} {f : Variable}
    (h : first? xs name = some f) : f.name = name := by
  simpa using List.find?_some h

theorem mem_of_first? {xs : List Variable} {name : String} {f : Variable}
    (h : first? xs name = some f) : f ∈ xs := List.mem_of_find?_eq_some h

theorem exists_first?_of_mem {xs : List Variable} {x : Variable} (h : x ∈ xs) :
    ∃ f, first? xs x.name = some f := by
  rw [← Option.isSome_iff_exists, first?_isSome, mem_distinctNames]
  exact ⟨x, h, rfl⟩

/-- Once a name has been seen, its first variable stays the same. -/
theorem first?_append_of_mem {xs : List Variable} {name : String} (ys : List Variable)
    (h : name ∈ distinctNames xs) : first? (xs ++ ys) name = first? xs name := by
  rw [← first?_isSome] at h
  rw [first?, List.find?_append]
  exact Option.or_of_isSome h

theorem first?_concat_of_not_mem {xs : List Variable} {x : Variable}
    (h : x.name ∉ distinctNames xs) : first? (xs ++ [x]) x.name = some x := by
  rw [← first?_eq_none] at h
  rw [first?, List.find?_append, show xs.find? (·.name == x.name) = none from h]
  simp

theorem first?_concat_of_ne {xs : List Variable} {x : Variable} {name : String}
    (h : x.name ≠ name) : first? (xs ++ [x]) name = first? xs name := by
  simp [first?, List.find?_append, h]

/-! ## Positions and parameters -/

theorem position_append_of_mem {xs : List Variable} {name : String} (ys : List Variable)
    (h : name ∈ distinctNames xs) : position (xs ++ ys) name = position xs name := by
  obtain ⟨more, hmore⟩ := distinctNames_append xs ys
  rw [position, hmore, List.idxOf_append_of_mem h, position]

theorem position_concat_of_not_mem {xs : List Variable} {x : Variable}
    (h : x.name ∉ distinctNames xs) :
    position (xs ++ [x]) x.name = (distinctNames xs).length + 1 := by
  rw [position, distinctNames_concat, if_neg h, List.idxOf_append, if_neg h]
  simp

theorem position_le {xs : List Variable} {name : String} (h : name ∈ distinctNames xs) :
    position xs name ≤ (distinctNames xs).length := List.idxOf_lt_length_iff.mpr h

/-- **The positions of variables, each taken when it first turns up, count up from one.** -/
theorem eraseDups_positions (xs : List Variable) :
    (xs.map fun x => position xs x.name).eraseDups =
      List.range' 1 (distinctNames xs).length := by
  induction xs using List.reverseRecOn with
  | nil => rfl
  | append_singleton xs x ih =>
    have hold : xs.map (fun y => position (xs ++ [x]) y.name) =
        xs.map fun y => position xs y.name :=
      List.map_congr_left fun y hy =>
        position_append_of_mem _ (mem_distinctNames.mpr ⟨y, hy, rfl⟩)
    rw [List.map_append, hold, List.map_cons, List.map_nil, eraseDups_concat, ih,
      distinctNames_concat]
    by_cases h : x.name ∈ distinctNames xs
    · obtain ⟨y, hy, hname⟩ := mem_distinctNames.mp h
      have hmem : position (xs ++ [x]) x.name ∈ xs.map fun y => position xs y.name := by
        rw [position_append_of_mem _ h, ← hname]
        exact List.mem_map_of_mem hy
      rw [if_pos hmem, if_pos h]
    · have hnot : position (xs ++ [x]) x.name ∉ xs.map fun y => position xs y.name := by
        rw [position_concat_of_not_mem h, List.mem_map]
        rintro ⟨y, hy, heq⟩
        have := position_le (mem_distinctNames.mpr ⟨y, hy, rfl⟩)
        omega
      rw [if_neg hnot, if_neg h, position_concat_of_not_mem h, List.length_append,
        List.length_singleton, List.range'_concat]
      simp [Nat.add_comm]

theorem parameters_concat (xs : List Variable) (x : Variable) :
    parameters (xs ++ [x]) =
      if x.name ∈ distinctNames xs then parameters xs else parameters xs ++ [x.parameter] := by
  have hold : (distinctNames xs).filterMap
        (fun name => (first? (xs ++ [x]) name).map (·.parameter)) = parameters xs :=
    List.filterMap_congr fun name h => by rw [first?_append_of_mem _ h]
  rw [parameters, distinctNames_concat]
  split
  · exact hold
  · rename_i h
    rw [List.filterMap_append, hold]
    simp [first?_concat_of_not_mem h]

/-- The parameters bear the distinct names, in their order. -/
theorem parameters_names (xs : List Variable) :
    (parameters xs).map (·.name) = distinctNames xs := by
  induction xs using List.reverseRecOn with
  | nil => rfl
  | append_singleton xs x ih =>
    rw [parameters_concat, distinctNames_concat]
    split
    · exact ih
    · simp [ih]

theorem length_parameters (xs : List Variable) :
    (parameters xs).length = (distinctNames xs).length := by
  rw [← parameters_names, List.length_map]

/-- At the position of a name stands the parameter of its first variable. -/
theorem parameters_at_position {xs : List Variable} {name : String} {f : Variable}
    (h : first? xs name = some f) :
    (parameters xs)[position xs name - 1]? = some f.parameter := by
  induction xs using List.reverseRecOn with
  | nil => simp [first?] at h
  | append_singleton xs x ih =>
    by_cases hname : name ∈ distinctNames xs
    · rw [first?_append_of_mem _ hname] at h
      have hlt : position xs name - 1 < (parameters xs).length := by
        rw [length_parameters]
        exact position_le hname
      rw [position_append_of_mem _ hname, parameters_concat]
      split
      · exact ih h
      · rw [List.getElem?_append_left hlt]
        exact ih h
    · have hx : x.name = name := by
        by_contra hne
        rw [first?_concat_of_ne hne, first?_eq_none.mpr hname] at h
        cases h
      subst hx
      rw [first?_concat_of_not_mem hname] at h
      cases h
      rw [position_concat_of_not_mem hname, parameters_concat, if_neg hname,
        ← length_parameters]
      simp

/-! ## Conflicts -/

theorem conflicts_concat (xs : List Variable) (x : Variable) :
    conflicts (xs ++ [x]) = conflicts xs ++ (conflict? (xs ++ [x]) x).toList := by
  have hold : xs.filterMap (conflict? (xs ++ [x])) = conflicts xs :=
    List.filterMap_congr fun y hy => by
      rw [conflict?, first?_append_of_mem _ (mem_distinctNames.mpr ⟨y, hy, rfl⟩), conflict?]
  rw [conflicts, List.filterMap_append, hold]
  cases h : conflict? (xs ++ [x]) x <;> simp [h]

/-- The first variable of a name is in conflict with nothing. -/
theorem conflict?_concat_of_not_mem {xs : List Variable} {x : Variable}
    (h : x.name ∉ distinctNames xs) : conflict? (xs ++ [x]) x = none := by
  rw [conflict?, first?_concat_of_not_mem h]
  simp

/-! ## Tables -/

/-- The slot that the name of a variable gets: its position and the first variable of the name. -/
def slot? (xs : List Variable) (name : String) : Option Slot :=
  (first? xs name).map fun f => ⟨position xs name, f.id⟩

/-- A table holds what the variables registered so far make of it. -/
structure Records (t : ParameterTable) (xs : List Variable) : Prop where
  parameters : t.parameters = parameters xs
  slots : ∀ name, t.slot? name = slot? xs name
  conflicts : t.conflicts = conflicts xs

theorem records_empty : Records {} [] := ⟨rfl, fun _ => rfl, rfl⟩

/-- In a table of sightings the conflict with a slot is the one with the first variable: the slot
points at a parameter, and at the right one. -/
theorem Records.conflict?_eq {t : ParameterTable} {xs : List Variable} (h : Records t xs)
    {x f : Variable} (hf : first? xs x.name = some f) :
    t.conflict? ⟨position xs x.name, f.id⟩ x = conflict? (xs ++ [x]) x := by
  have hmem : x.name ∈ distinctNames xs := first?_isSome.mp (by rw [hf]; rfl)
  have hkept : t.parameters[position xs x.name - 1]? = some f.parameter := by
    rw [h.parameters]
    exact parameters_at_position hf
  rw [conflict?, first?_append_of_mem _ hmem, hf]
  exact ParameterTable.conflict?_eq hkept

/-- **Registering a variable adds it to the sightings and gives its position among them.** -/
theorem Records.register {t : ParameterTable} {xs : List Variable} (h : Records t xs)
    (x : Variable) :
    (t.register x).1 = position (xs ++ [x]) x.name ∧
      Records (t.register x).2 (xs ++ [x]) := by
  cases hf : first? xs x.name with
  | some f =>
    have hmem : x.name ∈ distinctNames xs := first?_isSome.mp (by rw [hf]; rfl)
    have hslot : t.slot? x.name = some ⟨position xs x.name, f.id⟩ := by
      rw [h.slots, slot?, hf]
      rfl
    rw [ParameterTable.register_known hslot]
    refine ⟨(position_append_of_mem _ hmem).symm, ?_, ?_, ?_⟩
    · rw [parameters_concat, if_pos hmem]
      exact h.parameters
    · intro name
      show t.slot? name = _
      rw [h.slots name, slot?, slot?]
      by_cases hname : name ∈ distinctNames xs
      · rw [first?_append_of_mem _ hname, position_append_of_mem _ hname]
      · have hne : x.name ≠ name := fun he => hname (he ▸ hmem)
        rw [first?_concat_of_ne hne, first?_eq_none.mpr hname]
        rfl
    · rw [conflicts_concat, ← h.conflicts, ← h.conflict?_eq hf]
  | none =>
    have hmem : x.name ∉ distinctNames xs := first?_eq_none.mp hf
    have hsize : t.size = (distinctNames xs).length := by
      rw [ParameterTable.size, h.parameters, length_parameters]
    have hslot : t.slot? x.name = none := by
      rw [h.slots, slot?, hf]
      rfl
    refine ⟨?_, ?_, ?_, ?_⟩
    · rw [ParameterTable.register_new hslot, position_concat_of_not_mem hmem, hsize]
    · rw [ParameterTable.register_new hslot, parameters_concat, if_neg hmem, ← h.parameters]
    · intro name
      rw [ParameterTable.slot?_register_new hslot]
      by_cases hname : name = x.name
      · subst hname
        simp [slot?, first?_concat_of_not_mem hmem, position_concat_of_not_mem hmem, hsize]
      · rw [if_neg hname, h.slots name, slot?, slot?, first?_concat_of_ne (Ne.symm hname)]
        cases hfirst : first? xs name with
        | none => rfl
        | some g =>
          have hold : name ∈ distinctNames xs := first?_isSome.mp (by rw [hfirst]; rfl)
          rw [position_append_of_mem _ hold]
    · rw [ParameterTable.register_new hslot, conflicts_concat, conflict?_concat_of_not_mem hmem,
        ← h.conflicts]
      simp

end Sighting

end ParamSql
