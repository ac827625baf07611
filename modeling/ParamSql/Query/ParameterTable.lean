import ParamSql.Variable

/-!
# Parameter tables

While a query is compiled, each name that a variable brings gets a slot, in order of first sight.
The first variable of a name decides what the parameter is; a later one that is another variable and
is declared otherwise is a conflict, which is noted down.

* `ParameterTable.register` — the position of a variable's parameter, counted from one, and the
  table after it.
* `ParameterTable.indexOf?` — the position of a name.
-/

set_option autoImplicit false

namespace ParamSql

/-- Two declarations of one name that do not agree: the one that stays and the one passed over. -/
structure Conflict where
  name : String
  kept : Parameter
  ignored : Parameter

namespace Conflict

/-- A conflict as a message shows it. -/
def display (c : Conflict) : String :=
  "Variable '" ++ c.name ++ "' has multiple types/values: " ++ c.ignored.display ++ " and "
    ++ c.kept.display

/-- Equality of conflicts. -/
def eq (a b : Conflict) : Bool := a.name == b.name && a.kept.eq b.kept && a.ignored.eq b.ignored

end Conflict

/-- Where the parameter of a name stands, counted from one, and the variable that it came from. -/
structure Slot where
  position : Nat
  origin : VariableId

/-- The parameters of a query in the order of their positions, the slot of each name, and the
conflicts among the declarations met so far. -/
structure ParameterTable where
  parameters : List Parameter := []
  slots : List (String × Slot) := []
  conflicts : List Conflict := []

namespace ParameterTable

/-- The number of parameters. -/
def size (t : ParameterTable) : Nat := t.parameters.length

/-- Whether there is no parameter. -/
def isEmpty (t : ParameterTable) : Bool := t.parameters.isEmpty

/-- The slot of a name. -/
def slot? (t : ParameterTable) (name : String) : Option Slot := t.slots.lookup name

/-- The position of a name, counted from one. -/
def indexOf? (t : ParameterTable) (name : String) : Option Nat := (t.slot? name).map (·.position)

/-- The conflict that a variable has with the parameter in the slot of its name, if it has one. -/
def conflict? (t : ParameterTable) (s : Slot) (x : Variable) : Option Conflict :=
  if s.origin = x.id then none
  else
    match t.parameters[s.position - 1]? with
    -- no slot that `register` makes points past the parameters
    | none => none
    | some kept =>
      if kept.sameDefinition x.parameter then none else some ⟨x.name, kept, x.parameter⟩

/-- The position of a variable's parameter, and the table in which it has one. -/
def register (t : ParameterTable) (x : Variable) : Nat × ParameterTable :=
  match t.slot? x.name with
  | some s => (s.position, { t with conflicts := t.conflicts ++ (t.conflict? s x).toList })
  | none =>
    let position := t.size + 1
    (position, { t with
      parameters := t.parameters ++ [x.parameter]
      slots := (x.name, ⟨position, x.id⟩) :: t.slots })

/-! ## What one registration does -/

section

variable {t : ParameterTable} {x : Variable}

/-- A name that has a slot keeps it, and at most a conflict is added. -/
theorem register_known {s : Slot} (h : t.slot? x.name = some s) :
    t.register x =
      (s.position, { t with conflicts := t.conflicts ++ (t.conflict? s x).toList }) := by
  unfold register
  rw [h]

/-- A name that has no slot gets the next one, and its parameter is added. -/
theorem register_new (h : t.slot? x.name = none) :
    t.register x =
      (t.size + 1, { t with
        parameters := t.parameters ++ [x.parameter]
        slots := (x.name, ⟨t.size + 1, x.id⟩) :: t.slots }) := by
  unfold register
  rw [h]

/-- Of all slots, the one that is added is that of the new name. -/
theorem slot?_register_new (h : t.slot? x.name = none) (name : String) :
    (t.register x).2.slot? name =
      if name = x.name then some ⟨t.size + 1, x.id⟩ else t.slot? name := by
  rw [register_new h, slot?, List.lookup_cons]
  split
  · rename_i hname
    rw [if_pos (eq_of_beq hname)]
  · rename_i hname
    rw [if_neg (beq_eq_false_iff_ne.mp hname), slot?]

/-- A variable is in conflict with the parameter that its slot points at, if it is neither a copy of
the variable that this came from nor of the same type hint and an equal default. -/
theorem conflict?_eq {s : Slot} {kept : Parameter}
    (h : t.parameters[s.position - 1]? = some kept) :
    t.conflict? s x =
      if s.origin = x.id ∨
          kept.typeHint = x.parameter.typeHint ∧ (kept.default == x.parameter.default) = true
      then none
      else some ⟨x.name, kept, x.parameter⟩ := by
  unfold conflict?
  rw [h]
  by_cases hid : s.origin = x.id <;> simp [hid, Parameter.sameDefinition_iff]

end

end ParameterTable

end ParamSql
