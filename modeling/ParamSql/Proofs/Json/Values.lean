import Mathlib.Data.List.Induction
import ParamSql.Json.Basic
import ParamSql.Proofs.Json.Reading

/-!
# JSON values read back

What a document says of a value is the value itself, if its integers fit 64 bits, its doubles are
read as they were written, and its fields stand in the order of their names.

* `Numeral.toInt?_ofInt` — integers of 64 bits.
* `Binary.IsLegible` — doubles that are read as they were written.
* `Json.sortFields_of_sorted` — fields in order stay as they are.
* `Json.IsLegible` — the values that a document can say.
* `Json.ofDocument?_toDocument`, `Json.isWritten_toDocument` — their documents say them and are read
  back from text.
-/

set_option autoImplicit false

namespace ParamSql

/-! ## Numbers -/

/-- An integer of 64 bits, with or without a sign, is read as it was written. -/
theorem Numeral.toInt?_ofInt {n : Int} (hleast : -2 ^ 63 ≤ n) (hmost : n < 2 ^ 64) :
    (ofInt n).toInt? = some n := by
  rw [toInt?]
  simp only [isInteger, ofInt, List.isEmpty_nil, Option.isNone_none, Bool.and_self, if_true,
    readDigits_digitsOf, decide_eq_true_eq]
  have hsize : UInt64.size = 2 ^ 64 := rfl
  split
  · rw [if_pos (by simp; omega)]
    congr 1
    omega
  · rw [if_pos (by omega)]
    congr 1
    omega

/-- A finite double whose numeral is read as the double itself. -/
def Binary.IsLegible (x : Binary .double) : Prop :=
  x.isFinite = true ∧ (Numeral.ofBinary Numeral.jsonDouble x).toDouble? = some x

namespace Json

/-! ## Fields in order -/

/-- A field behind all others is added at the end. -/
theorem insertField_of_forall_lt {key : String} (value : Json) {fields : List (String × Json)}
    (h : ∀ f ∈ fields, f.1 < key) :
    insertField key value fields = fields ++ [(key, value)] := by
  induction fields with
  | nil => rfl
  | cons f fields ih =>
    rw [List.forall_mem_cons] at h
    have hne : key ≠ f.1 := fun he => String.lt_irrefl _ (he ▸ h.1)
    rw [insertField, if_neg (String.lt_asymm h.1), if_neg hne, ih h.2]
    rfl

/-- **Fields in the order of their names stay as they are.** -/
theorem sortFields_of_sorted {fields : List (String × Json)}
    (h : (fields.map (·.1)).Pairwise (· < ·)) : sortFields fields = fields := by
  induction fields using List.reverseRecOn with
  | nil => rfl
  | append_singleton fields f ih =>
    rw [List.map_append, List.pairwise_append] at h
    have hlast : ∀ g ∈ fields, g.1 < f.1 := fun g hg =>
      h.2.2 g.1 (List.mem_map_of_mem hg) f.1 (by simp)
    rw [sortFields, List.foldl_append, ← sortFields, ih h.1]
    exact insertField_of_forall_lt f.2 hlast

/-! ## Values -/

mutual

/-- A value that a document can say: its integers fit 64 bits, its doubles are read as they were
written and its fields stand in the order of their names. -/
def IsLegible : Json → Prop
  | .null | .bool _ | .string _ => True
  | .int n => -2 ^ 63 ≤ n ∧ n < 2 ^ 64
  | .float x => x.IsLegible
  | .array items => IsLegibleEach items
  | .object fields => (fields.map (·.1)).Pairwise (· < ·) ∧ IsLegibleFields fields

/-- Values that can each be said. -/
def IsLegibleEach : List Json → Prop
  | [] => True
  | j :: js => IsLegible j ∧ IsLegibleEach js

/-- Fields whose values can each be said. -/
def IsLegibleFields : List (String × Json) → Prop
  | [] => True
  | (_, j) :: fs => IsLegible j ∧ IsLegibleFields fs

end

mutual

/-- **The document of a value says the value.** -/
theorem ofDocument?_toDocument : ∀ j : Json, j.IsLegible → ofDocument? j.toDocument = some j
  | .null, _ => rfl
  | .bool _, _ => rfl
  | .string _, _ => rfl
  | .int n, h => by
    rw [toDocument, Document.int, ofDocument?, ofNumeral?, Numeral.toInt?_ofInt h.1 h.2]
  | .float x, h => by
    rw [toDocument, ofDouble, if_pos h.1, ofDocument?, ofNumeral?,
      Numeral.toInt?_eq_none (Numeral.ofBinary_spec _ x).2]
    simp only [h.2]
    rfl
  | .array items, h => by
    rw [toDocument, ofDocument?, ofEach?_toDocuments items h]
    rfl
  | .object fields, h => by
    rw [toDocument, ofDocument?, ofFields?_toFields fields h.2, Option.map_some,
      sortFields_of_sorted h.1]

theorem ofEach?_toDocuments :
    ∀ js : List Json, IsLegibleEach js → ofEach? (toDocuments js) = some js
  | [], _ => rfl
  | j :: js, h => by
    rw [toDocuments, ofEach?, ofDocument?_toDocument j h.1, ofEach?_toDocuments js h.2]

theorem ofFields?_toFields :
    ∀ fs : List (String × Json), IsLegibleFields fs → ofFields? (toFields fs) = some fs
  | [], _ => rfl
  | (k, j) :: fs, h => by
    simp only [toFields, ofFields?, ofDocument?_toDocument j h.1, ofFields?_toFields fs h.2]

end

theorem isWritten_ofDouble (x : Binary .double) : (ofDouble x).IsWritten := by
  unfold ofDouble
  split
  · exact (Numeral.ofBinary_spec _ x).1
  · trivial

mutual

/-- **The document of a value is read back from text**, whatever the value. -/
theorem isWritten_toDocument : ∀ j : Json, j.toDocument.IsWritten
  | .null => trivial
  | .bool _ => trivial
  | .string _ => rfl
  | .int n => Numeral.isWritten_ofInt n
  | .float x => isWritten_ofDouble x
  | .array items => isWrittenEach_toDocuments items
  | .object fields => isWrittenFields_toFields fields

theorem isWrittenEach_toDocuments :
    ∀ js : List Json, Document.IsWrittenEach (toDocuments js)
  | [] => trivial
  | j :: js => ⟨isWritten_toDocument j, isWrittenEach_toDocuments js⟩

theorem isWrittenFields_toFields :
    ∀ fs : List (String × Json), Document.IsWrittenFields (toFields fs)
  | [] => trivial
  | (_, j) :: fs => ⟨rfl, isWritten_toDocument j, isWrittenFields_toFields fs⟩

end

end Json

end ParamSql
