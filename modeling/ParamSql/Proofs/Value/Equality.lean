import ParamSql.Variable

/-!
# Equality of values

Equality of values is symmetric and transitive. It is not reflexive: NaN does not equal itself, and
neither does an array or a JSON value with NaN in it.

* `Json.eq_symm`, `Json.eq_trans` — for JSON values.
* `Value.eq_symm`, `Value.eq_trans` — for values, so that `==` is a partial equivalence.
* `Parameter.sameDefinition_symm`, `Parameter.sameDefinition_trans` — for declarations.
-/

set_option autoImplicit false

namespace ParamSql

/-! ## JSON values -/

namespace Json

/-- Whether a JSON value has no parts and is no floating point number. -/
def isPlain : Json → Bool
  | .null | .bool _ | .int _ | .string _ => true
  | .float _ | .array _ | .object _ => false

/-- A plain value equals nothing but itself. -/
theorem eq_of_isPlain {a b : Json} (ha : a.isPlain = true) (h : a.eq b = true) : a = b := by
  cases a <;> cases b <;> simp_all [isPlain, eq]

mutual

theorem eq_symm : ∀ {a b : Json}, a.eq b = true → b.eq a = true
  | .null, _, h | .bool _, _, h | .int _, _, h | .string _, _, h => by
    obtain rfl := eq_of_isPlain rfl h
    exact h
  | .float x, b, h => by
    cases b with
    | float y => exact (Binary.eq_comm y x).trans h
    | _ => cases h
  | .array as, b, h => by
    cases b with
    | array bs => exact eqEach_symm h
    | _ => cases h
  | .object as, b, h => by
    cases b with
    | object bs => exact eqFields_symm h
    | _ => cases h

theorem eqEach_symm : ∀ {as bs : List Json}, eqEach as bs = true → eqEach bs as = true
  | [], [], h => h
  | [], _ :: _, h => by cases h
  | _ :: _, [], h => by cases h
  | a :: as, b :: bs, h => by
    rw [eqEach, Bool.and_eq_true] at h ⊢
    exact ⟨eq_symm h.1, eqEach_symm h.2⟩

theorem eqFields_symm :
    ∀ {as bs : List (String × Json)}, eqFields as bs = true → eqFields bs as = true
  | [], [], h => h
  | [], _ :: _, h => by cases h
  | _ :: _, [], h => by cases h
  | (k, a) :: as, (l, b) :: bs, h => by
    rw [eqFields, Bool.and_eq_true, Bool.and_eq_true] at h ⊢
    exact ⟨⟨BEq.symm h.1.1, eq_symm h.1.2⟩, eqFields_symm h.2⟩

end

mutual

theorem eq_trans : ∀ {a b c : Json}, a.eq b = true → b.eq c = true → a.eq c = true
  | .null, _, _, h, h' | .bool _, _, _, h, h' | .int _, _, _, h, h' | .string _, _, _, h, h' => by
    obtain rfl := eq_of_isPlain rfl h
    exact h'
  | .float x, b, c, h, h' => by
    cases b with
    | float y =>
      cases c with
      | float z => exact Binary.eq_trans h h'
      | _ => cases h'
    | _ => cases h
  | .array as, b, c, h, h' => by
    cases b with
    | array bs =>
      cases c with
      | array cs => exact eqEach_trans h h'
      | _ => cases h'
    | _ => cases h
  | .object as, b, c, h, h' => by
    cases b with
    | object bs =>
      cases c with
      | object cs => exact eqFields_trans h h'
      | _ => cases h'
    | _ => cases h

theorem eqEach_trans :
    ∀ {as bs cs : List Json}, eqEach as bs = true → eqEach bs cs = true → eqEach as cs = true
  | [], [], _, _, h' => h'
  | [], _ :: _, _, h, _ => by cases h
  | _ :: _, [], _, h, _ => by cases h
  | _ :: _, _ :: _, [], _, h' => by cases h'
  | a :: as, b :: bs, c :: cs, h, h' => by
    rw [eqEach, Bool.and_eq_true] at h h' ⊢
    exact ⟨eq_trans h.1 h'.1, eqEach_trans h.2 h'.2⟩

theorem eqFields_trans :
    ∀ {as bs cs : List (String × Json)}, eqFields as bs = true → eqFields bs cs = true →
      eqFields as cs = true
  | [], [], _, _, h' => h'
  | [], _ :: _, _, h, _ => by cases h
  | _ :: _, [], _, h, _ => by cases h
  | _ :: _, _ :: _, [], _, h' => by cases h'
  | (k, a) :: as, (l, b) :: bs, (m, c) :: cs, h, h' => by
    rw [eqFields, Bool.and_eq_true, Bool.and_eq_true] at h h' ⊢
    exact ⟨⟨BEq.trans h.1.1 h'.1.1, eq_trans h.1.2 h'.1.2⟩, eqFields_trans h.2 h'.2⟩

end

end Json

/-! ## Values -/

namespace Value

/-- Whether equality with a value is identity, since it is no number with a point and has no
parts. -/
def isPlain : Value → Bool
  | .null | .bool _ | .int32 _ | .int64 _ | .text _ | .bytes _ | .uuid _ | .timestamp _ => true
  | .float32 _ | .float64 _ | .json _ | .array _ | .decimal _ => false

/-- A plain value equals nothing but itself. -/
theorem eq_of_isPlain {a b : Value} (ha : a.isPlain = true) (h : a.eq b = true) : a = b := by
  cases a <;> cases b <;> simp_all [isPlain, eq]

mutual

theorem eq_symm : ∀ {a b : Value}, a.eq b = true → b.eq a = true
  | .null, _, h | .bool _, _, h | .int32 _, _, h | .int64 _, _, h | .text _, _, h
  | .bytes _, _, h | .uuid _, _, h | .timestamp _, _, h => by
    obtain rfl := eq_of_isPlain rfl h
    exact h
  | .float32 x, b, h => by
    cases b with
    | float32 y => exact (Binary.eq_comm y x).trans h
    | _ => cases h
  | .float64 x, b, h => by
    cases b with
    | float64 y => exact (Binary.eq_comm y x).trans h
    | _ => cases h
  | .json j, b, h => by
    cases b with
    | json k => exact Json.eq_symm h
    | _ => cases h
  | .array as, b, h => by
    cases b with
    | array bs => exact eqEach_symm h
    | _ => cases h
  | .decimal x, b, h => by
    cases b with
    | decimal y => exact (Decimal.eq_comm y x).trans h
    | _ => cases h

theorem eqEach_symm : ∀ {as bs : List Value}, eqEach as bs = true → eqEach bs as = true
  | [], [], h => h
  | [], _ :: _, h => by cases h
  | _ :: _, [], h => by cases h
  | a :: as, b :: bs, h => by
    rw [eqEach, Bool.and_eq_true] at h ⊢
    exact ⟨eq_symm h.1, eqEach_symm h.2⟩

end

mutual

theorem eq_trans : ∀ {a b c : Value}, a.eq b = true → b.eq c = true → a.eq c = true
  | .null, _, _, h, h' | .bool _, _, _, h, h' | .int32 _, _, _, h, h' | .int64 _, _, _, h, h'
  | .text _, _, _, h, h' | .bytes _, _, _, h, h' | .uuid _, _, _, h, h'
  | .timestamp _, _, _, h, h' => by
    obtain rfl := eq_of_isPlain rfl h
    exact h'
  | .float32 x, b, c, h, h' => by
    cases b with
    | float32 y =>
      cases c with
      | float32 z => exact Binary.eq_trans h h'
      | _ => cases h'
    | _ => cases h
  | .float64 x, b, c, h, h' => by
    cases b with
    | float64 y =>
      cases c with
      | float64 z => exact Binary.eq_trans h h'
      | _ => cases h'
    | _ => cases h
  | .json j, b, c, h, h' => by
    cases b with
    | json k =>
      cases c with
      | json l => exact Json.eq_trans h h'
      | _ => cases h'
    | _ => cases h
  | .array as, b, c, h, h' => by
    cases b with
    | array bs =>
      cases c with
      | array cs => exact eqEach_trans h h'
      | _ => cases h'
    | _ => cases h
  | .decimal x, b, c, h, h' => by
    cases b with
    | decimal y =>
      cases c with
      | decimal z => exact Decimal.eq_trans h h'
      | _ => cases h'
    | _ => cases h

theorem eqEach_trans :
    ∀ {as bs cs : List Value}, eqEach as bs = true → eqEach bs cs = true → eqEach as cs = true
  | [], [], _, _, h' => h'
  | [], _ :: _, _, h, _ => by cases h
  | _ :: _, [], _, h, _ => by cases h
  | _ :: _, _ :: _, [], _, h' => by cases h'
  | a :: as, b :: bs, c :: cs, h, h' => by
    rw [eqEach, Bool.and_eq_true] at h h' ⊢
    exact ⟨eq_trans h.1 h'.1, eqEach_trans h.2 h'.2⟩

end

instance : PartialEquivBEq Value := ⟨eq_symm, eq_trans⟩

end Value

/-! ## Declarations -/

section

variable {α : Type} [BEq α] [PartialEquivBEq α]

theorem option_symm {a b : Option α} (h : (a == b) = true) : (b == a) = true := by
  cases a with
  | none =>
    cases b with
    | none => exact h
    | some y => cases h
  | some x =>
    cases b with
    | none => cases h
    | some y =>
      rw [Option.some_beq_some] at h ⊢
      exact BEq.symm h

theorem option_trans {a b c : Option α} (h : (a == b) = true) (h' : (b == c) = true) :
    (a == c) = true := by
  cases b with
  | none =>
    cases a with
    | none => exact h'
    | some x => cases h
  | some y =>
    cases a with
    | none => cases h
    | some x =>
      cases c with
      | none => cases h'
      | some z =>
        rw [Option.some_beq_some] at h h' ⊢
        exact BEq.trans h h'

end

namespace Parameter

variable {p q r : Parameter}

theorem sameDefinition_symm (h : p.sameDefinition q = true) : q.sameDefinition p = true := by
  rw [sameDefinition_iff] at h ⊢
  exact ⟨h.1.symm, option_symm h.2⟩

theorem sameDefinition_trans (h : p.sameDefinition q = true) (h' : q.sameDefinition r = true) :
    p.sameDefinition r = true := by
  rw [sameDefinition_iff] at h h' ⊢
  exact ⟨h.1.trans h'.1, option_trans h.2 h'.2⟩

end Parameter

end ParamSql
