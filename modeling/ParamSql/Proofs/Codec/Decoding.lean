import Mathlib.Data.List.Forall2
import ParamSql.Codec.Query
import ParamSql.Proofs.Json.Reading

/-!
# Decoding what was encoded

A decoder recovers something from a document if, wherever the document may stand, it takes it to the
same again.

* `Decoder.Recovers` — decoders that recover; `recovers_within`, `recovers_nullable` and
  `recovers_list` say it of the decoders that others are made of.
* `fields?_record` — the fields of a record come back in their order.
* `exists_decodeText?` — what is recovered from a document is recovered from its text.
-/

set_option autoImplicit false

namespace ParamSql

open Codec

/-! ## Documents -/

namespace Document

theorem nestingEach_le_iff {ds : List Document} {n : Nat} :
    nestingEach ds ≤ n ↔ ∀ d ∈ ds, d.nesting ≤ n := by
  induction ds with
  | nil => simp [nestingEach]
  | cons d ds ih => rw [nestingEach, Nat.max_le, ih, List.forall_mem_cons]

theorem nestingFields_le_iff {fields : List (String × Document)} {n : Nat} :
    nestingFields (fields.map fun f => (some f.1, f.2)) ≤ n ↔ ∀ f ∈ fields, f.2.nesting ≤ n := by
  induction fields with
  | nil => simp [nestingFields]
  | cons f fields ih =>
    rw [List.map_cons, nestingFields, Nat.max_le, ih, List.forall_mem_cons]

/-- Where an array may stand, its items may stand one level deeper. -/
theorem exists_of_nesting_array {ds : List Document} {depth : Nat}
    (h : (array ds).nesting ≤ depth) : ∃ n, depth = n + 1 ∧ ∀ d ∈ ds, d.nesting ≤ n := by
  rw [nesting] at h
  obtain ⟨n, rfl⟩ : ∃ n, depth = n + 1 := ⟨depth - 1, by omega⟩
  exact ⟨n, rfl, nestingEach_le_iff.mp (by omega)⟩

/-- Where a record may stand, its parts may stand one level deeper. -/
theorem exists_of_nesting_record {fields : List (String × Document)} {depth : Nat}
    (h : (record fields).nesting ≤ depth) :
    ∃ n, depth = n + 1 ∧ ∀ f ∈ fields, f.2.nesting ≤ n := by
  rw [record, nesting] at h
  obtain ⟨n, rfl⟩ : ∃ n, depth = n + 1 := ⟨depth - 1, by omega⟩
  exact ⟨n, rfl, nestingFields_le_iff.mp (by omega)⟩

theorem isWrittenEach_iff {ds : List Document} : IsWrittenEach ds ↔ ∀ d ∈ ds, d.IsWritten := by
  induction ds with
  | nil => simp [IsWrittenEach]
  | cons d ds ih => rw [IsWrittenEach, ih, List.forall_mem_cons]

theorem isWritten_map {α : Type} {encode : α → Document} (h : ∀ a, (encode a).IsWritten)
    (as : List α) : (array (as.map encode)).IsWritten :=
  isWrittenEach_iff.mpr fun d hd => by
    obtain ⟨a, -, rfl⟩ := List.mem_map.mp hd
    exact h a

theorem isWritten_record {fields : List (String × Document)} (h : ∀ f ∈ fields, f.2.IsWritten) :
    (record fields).IsWritten := by
  rw [record, IsWritten]
  induction fields with
  | nil => trivial
  | cons f fields ih =>
    rw [List.forall_mem_cons] at h
    exact ⟨rfl, h.1, ih h.2⟩

end Document

/-! ## Decoders -/

namespace Codec

variable {α : Type}

/-- Wherever the document may stand, the decoder takes it to what is the same as `a`. -/
def Decoder.Recovers (decode : Decoder α) (same : α → α → Prop) (d : Document) (a : α) : Prop :=
  ∀ depth, d.nesting ≤ depth → ∃ b, decode depth d = some b ∧ same b a

variable {part : Decoder α} {same : α → α → Prop} {encode : α → Document}

theorem recovers_within {read : Document → Option α} {d : Document} {a : α}
    (h : ∃ b, read d = some b ∧ same b a) : (Decoder.within read).Recovers same d a := by
  intro depth hdepth
  rw [Decoder.within, if_pos hdepth]
  exact h

/-- An optional part is recovered, if no part has the document of a missing one. -/
theorem recovers_nullable {o : Option α} (hnull : ∀ a, encode a ≠ .null)
    (h : ∀ a ∈ o, part.Recovers same (encode a) a) :
    (Decoder.nullable part).Recovers (Option.Rel same) (encodeOption encode o) o := by
  intro depth hdepth
  cases o with
  | none => exact ⟨none, rfl, .none⟩
  | some a =>
    obtain ⟨b, hb, hsame⟩ := h a rfl depth hdepth
    refine ⟨some b, ?_, .some hsame⟩
    rw [encodeOption, Decoder.nullable, hb, Option.map_some]
    exact hnull a

theorem exists_mapM {f : Document → Option α} {as : List α}
    (h : ∀ a ∈ as, ∃ b, f (encode a) = some b ∧ same b a) :
    ∃ bs, (as.map encode).mapM f = some bs ∧ List.Forall₂ same bs as := by
  induction as with
  | nil => exact ⟨[], rfl, .nil⟩
  | cons a as ih =>
    rw [List.forall_mem_cons] at h
    obtain ⟨b, hb, hsame⟩ := h.1
    obtain ⟨bs, hbs, hsames⟩ := ih h.2
    refine ⟨b :: bs, ?_, .cons hsame hsames⟩
    rw [List.map_cons, List.mapM_cons, hb, hbs]
    rfl

theorem recovers_list {as : List α} (h : ∀ a ∈ as, part.Recovers same (encode a) a) :
    (Decoder.list part).Recovers (List.Forall₂ same) (.array (as.map encode)) as := by
  intro depth hdepth
  obtain ⟨n, rfl, hitems⟩ := Document.exists_of_nesting_array hdepth
  exact exists_mapM fun a ha => h a ha n (hitems _ (List.mem_map_of_mem ha))

/-! ## Records -/

/-- A field behind others goes to its own place. -/
theorem putField?_append {name : String} {before : List String} (h : name ∉ before) (d : Document)
    (after : List String) (slots : List (Option Document)) (rest : List (Option Document))
    (hlength : slots.length = before.length) :
    putField? name d (before ++ name :: after) (slots ++ none :: rest) =
      some (slots ++ some d :: rest) := by
  induction before generalizing slots with
  | nil =>
    obtain rfl := List.length_eq_zero_iff.mp hlength
    simp [putField?]
  | cons m before ih =>
    obtain ⟨slot, slots, rfl⟩ := List.exists_cons_of_length_eq_add_one hlength
    rw [List.mem_cons, not_or] at h
    simp only [List.cons_append, putField?, if_neg (Ne.symm h.1),
      ih h.2 slots (by simpa using hlength), Option.map_some]

/-- Fields of distinct names are collected one after the other. -/
theorem collect?_append (fields : List (String × Document)) :
    ∀ before : List (String × Document), ((before ++ fields).map (·.1)).Nodup →
      collect? ((before ++ fields).map (·.1)) (fields.map fun f => (some f.1, f.2))
          (before.map (some ·.2) ++ fields.map fun _ => none) =
        some ((before ++ fields).map (some ·.2)) := by
  induction fields with
  | nil => intro before _; simp [collect?]
  | cons f fields ih =>
    intro before h
    have hnext := ih (before ++ [f]) (by simpa using h)
    have hname : f.1 ∉ before.map (·.1) := by
      rw [List.map_append, List.map_cons, List.nodup_append] at h
      exact fun hmem => h.2.2 f.1 hmem f.1 (by simp) rfl
    simp only [List.map_append, List.map_cons, List.append_assoc, List.map_nil,
      List.cons_append, List.nil_append] at hnext ⊢
    rw [collect?, putField?_append hname _ _ _ _ (by simp), Option.bind_some, hnext]

/-- **The fields of a record, in their order.** -/
theorem fields?_record (fields : List (String × Document)) (h : (fields.map (·.1)).Nodup)
    (needed depth : Nat) :
    fields? (fields.map (·.1)) needed (depth + 1) (.record fields) =
      some (fields.map (some ·.2)) := by
  have hcollect := collect?_append fields [] (by simpa using h)
  rw [List.nil_append] at hcollect
  rw [Document.record, fields?, List.map_map]
  exact hcollect

/-! ## Texts -/

/-- **What is recovered from a document is recovered from its text.** -/
theorem exists_decodeText? {decode : Decoder α} {d : Document} {a : α}
    (hwritten : d.IsWritten) (h : decode.Recovers same d a) (hnesting : d.nesting ≤ Json.maxNesting) :
    ∃ b, decodeText? decode (encodeText d) = some b ∧ same b a := by
  rw [decodeText?, encodeText, Document.ofText?_print hwritten, Option.bind_some]
  exact h _ hnesting

end Codec

end ParamSql
