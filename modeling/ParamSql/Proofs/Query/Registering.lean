import ParamSql.Proofs.Query.Sighting

/-!
# Tables in step with themselves

A parameter table keeps its parameters in a list and their positions in slots beside it. However
variables are registered, the two say the same.

* `ParameterTable.registerAll` — a table after a row of registrations.
* `Sighting.Records.registerAll` — a new table holds just the sightings of the row, so
  `Sighting.Records.indexOf?_eq_some_iff` and the other facts of such tables are true of it.
* `ParameterTable.registerAll_in_step` — what is true of every table there is while variables are
  registered, and what the next registration does to it.
-/

set_option autoImplicit false

namespace ParamSql

namespace ParameterTable

/-- The table after variables have been registered one by one. -/
def registerAll (t : ParameterTable) (xs : List Variable) : ParameterTable :=
  xs.foldl (fun t x => (t.register x).2) t

theorem registerAll_concat (t : ParameterTable) (xs : List Variable) (x : Variable) :
    t.registerAll (xs ++ [x]) = ((t.registerAll xs).register x).2 := by
  simp [registerAll]

/-- **The names that have slots are those of the parameters**, each of them as often. -/
theorem perm_register {t : ParameterTable}
    (h : (t.slots.map (·.1)).Perm (t.parameters.map (·.name))) (x : Variable) :
    ((t.register x).2.slots.map (·.1)).Perm ((t.register x).2.parameters.map (·.name)) := by
  cases hslot : t.slot? x.name with
  | some s =>
    rw [register_known hslot]
    exact h
  -- a new slot is put in front, a new parameter behind
  | none =>
    rw [register_new hslot, List.map_append, List.map_cons, List.map_cons, List.map_nil,
      Variable.parameter_name]
    exact (h.cons x.name).trans (List.perm_append_singleton _ _).symm

theorem perm_registerAll (xs : List Variable) :
    let t := ({} : ParameterTable).registerAll xs
    (t.slots.map (·.1)).Perm (t.parameters.map (·.name)) := by
  induction xs using List.reverseRecOn with
  | nil => exact List.Perm.refl []
  | append_singleton xs x ih =>
    dsimp only
    rw [registerAll_concat]
    exact perm_register ih x

end ParameterTable

namespace Sighting

/-! ## Tables of sightings -/

theorem Records.registerAll (xs : List Variable) :
    Records (({} : ParameterTable).registerAll xs) xs := by
  induction xs using List.reverseRecOn with
  | nil => exact records_empty
  | append_singleton xs x ih =>
    rw [ParameterTable.registerAll_concat]
    exact (ih.register x).2

section

variable {t : ParameterTable} {xs : List Variable}

theorem Records.names (h : Records t xs) : t.parameters.map (·.name) = distinctNames xs := by
  rw [h.parameters, parameters_names]

/-- The position of a name is the place where its parameter stands. -/
theorem Records.indexOf?_eq_some_iff (h : Records t xs) {name : String} {i : Nat} :
    t.indexOf? name = some i ↔
      1 ≤ i ∧ i ≤ t.size ∧ (t.parameters[i - 1]?).map (·.name) = some name := by
  have hindex : t.indexOf? name = (first? xs name).map fun _ => position xs name := by
    rw [ParameterTable.indexOf?, h.slots, slot?, Option.map_map]
    rfl
  have hsize : t.size = (distinctNames xs).length := by
    rw [ParameterTable.size, ← h.names, List.length_map]
  have hplace : (t.parameters[i - 1]?).map (·.name) = (distinctNames xs)[i - 1]? := by
    rw [← h.names, List.getElem?_map]
  rw [hindex, hsize, hplace]
  constructor
  · intro hsome
    obtain ⟨f, hf, rfl⟩ := Option.map_eq_some_iff.mp hsome
    have hmem : name ∈ distinctNames xs := first?_isSome.mp (by rw [hf]; rfl)
    refine ⟨Nat.succ_pos _, position_le hmem, ?_⟩
    exact List.getElem?_idxOf hmem
  · rintro ⟨hpos, hle, hname⟩
    obtain ⟨hlt, hat⟩ := List.getElem?_eq_some_iff.mp hname
    -- the names are distinct, so the one at this place stands at no other
    have hidx : (distinctNames xs).idxOf name = i - 1 := by
      rw [← hat]
      exact (nodup_distinctNames xs).idxOf_getElem _ hlt
    have hmem : name ∈ distinctNames xs := hat ▸ List.getElem_mem hlt
    obtain ⟨f, hf⟩ := Option.isSome_iff_exists.mp (first?_isSome.mpr hmem)
    rw [hf, Option.map_some, position, hidx]
    congr 1
    omega

/-- A table is empty exactly if no name has a position. -/
theorem Records.isEmpty_iff (h : Records t xs) :
    t.isEmpty = true ↔ ∀ name, t.indexOf? name = none := by
  rw [ParameterTable.isEmpty, List.isEmpty_iff]
  constructor
  · intro hnil name
    cases hindex : t.indexOf? name with
    | none => rfl
    | some i =>
      obtain ⟨hpos, hle, -⟩ := h.indexOf?_eq_some_iff.mp hindex
      rw [ParameterTable.size, hnil, List.length_nil] at hle
      omega
  · intro hnone
    cases hparameters : t.parameters with
    | nil => rfl
    | cons p ps =>
      have hfirst : t.indexOf? p.name = some 1 :=
        h.indexOf?_eq_some_iff.mpr
          ⟨Nat.le_refl 1, by simp [ParameterTable.size, hparameters], by simp [hparameters]⟩
      rw [hnone] at hfirst
      cases hfirst

/-- A slot belongs to the first variable of its name. -/
theorem Records.origin_eq (h : Records t xs) (name : String) :
    (t.slot? name).map (·.origin) = (first? xs name).map (·.id) := by
  rw [h.slots, slot?, Option.map_map]
  rfl

/-- A slot points at the parameter that the first variable of its name asks for. -/
theorem Records.parameter_eq (h : Records t xs) (name : String) :
    ((t.slot? name).bind fun s => t.parameters[s.position - 1]?) =
      (first? xs name).map (·.parameter) := by
  rw [h.slots, slot?]
  cases hf : first? xs name with
  | none => rfl
  | some f =>
    rw [h.parameters]
    exact parameters_at_position hf

/-- No slot points beside the parameters. -/
theorem Records.exists_parameter (h : Records t xs) {name : String} {s : Slot}
    (hs : t.slot? name = some s) :
    1 ≤ s.position ∧ ∃ kept, t.parameters[s.position - 1]? = some kept := by
  have hindex : t.indexOf? name = some s.position := by rw [ParameterTable.indexOf?, hs]; rfl
  obtain ⟨hpos, -, hname⟩ := h.indexOf?_eq_some_iff.mp hindex
  obtain ⟨kept, hkept, -⟩ := Option.map_eq_some_iff.mp hname
  exact ⟨hpos, kept, hkept⟩

end

end Sighting

namespace ParameterTable

open Sighting

/-- **However variables are registered, a table is in step with itself.** This is true of a new table
after any row of registrations, so of every table on the way:

* the slots and the parameters describe the same positions, each name having one;
* the slot of a name belongs to the first variable of the name, and so does its parameter;
* the next variable is given the position that its name has from then on. Either the name is new,
  and a parameter and a slot are added; or it has a slot, which points at a parameter, and nothing but
  a conflict with this one may be added. -/
theorem registerAll_in_step (xs : List Variable) :
    let t := ({} : ParameterTable).registerAll xs
    ((∀ name i, t.indexOf? name = some i ↔
          1 ≤ i ∧ i ≤ t.size ∧ (t.parameters[i - 1]?).map (·.name) = some name) ∧
        (t.parameters.map (·.name)).Nodup ∧
        (t.slots.map (·.1)).Perm (t.parameters.map (·.name)) ∧
        (t.isEmpty = true ↔ ∀ name, t.indexOf? name = none)) ∧
      (∀ name,
        (t.slot? name).map (·.origin) = (xs.find? (·.name == name)).map (·.id) ∧
          ((t.slot? name).bind fun s => t.parameters[s.position - 1]?) =
            (xs.find? (·.name == name)).map (·.parameter)) ∧
      ∀ x,
        let (i, t') := t.register x
        t'.indexOf? x.name = some i ∧
          ((t.slot? x.name = none ∧ i = t.size + 1 ∧ t'.conflicts = t.conflicts ∧
              t'.parameters = t.parameters ++ [x.parameter] ∧
              ∀ name, t'.slot? name =
                if name = x.name then some ⟨t.size + 1, x.id⟩ else t.slot? name) ∨
            ∃ s kept, t.slot? x.name = some s ∧ i = s.position ∧ 1 ≤ i ∧
              t.parameters[i - 1]? = some kept ∧ t'.parameters = t.parameters ∧
              t'.slots = t.slots ∧
              t'.conflicts = t.conflicts ++
                (if s.origin = x.id ∨
                    kept.typeHint = x.parameter.typeHint ∧
                      (kept.default == x.parameter.default) = true
                then none
                else some ⟨x.name, kept, x.parameter⟩).toList) := by
  intro t
  have hrecords : Records t xs := Records.registerAll xs
  refine ⟨⟨fun _ _ => hrecords.indexOf?_eq_some_iff, ?_, perm_registerAll xs, hrecords.isEmpty_iff⟩,
    fun name => ⟨hrecords.origin_eq name, hrecords.parameter_eq name⟩, fun x => ?_⟩
  · rw [hrecords.names]
    exact nodup_distinctNames xs
  · dsimp only
    cases hslot : t.slot? x.name with
    | none =>
      have hslots := slot?_register_new hslot
      refine ⟨?_, .inl ⟨rfl, ?_, ?_, ?_, hslots⟩⟩
      · rw [indexOf?, hslots, if_pos rfl, register_new hslot]
        rfl
      all_goals rw [register_new hslot]
    | some s =>
      obtain ⟨hpos, kept, hkept⟩ := hrecords.exists_parameter hslot
      rw [register_known hslot, conflict?_eq hkept]
      refine ⟨?_, .inr ⟨s, kept, rfl, rfl, hpos, hkept, rfl, rfl, rfl⟩⟩
      show (t.slot? x.name).map (·.position) = some s.position
      rw [hslot]
      rfl

end ParameterTable

end ParamSql
