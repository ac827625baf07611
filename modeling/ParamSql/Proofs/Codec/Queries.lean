import ParamSql.Proofs.Codec.Values
import ParamSql.Proofs.Query.Likeness

/-!
# Queries read back

Parameters, conflicts, compiled and bound queries are recovered from their documents, and so from
their texts, as long as the values in them are.

* `Parameter.recovers`, `Conflict.recovers`, `CompiledQuery.recovers`, `BoundQuery.recovers` — each
  record from its document.
* `Parameter.sameNulls_of_eq` — no default, the default NULL and the default null of JSON are kept
  apart.
* `decodeText?_encodeText` — everything that has a document, from its text.
-/

set_option autoImplicit false

namespace ParamSql

open Codec

/-! ## Types and styles -/

theorem recovers_hint (t : Option ValueType) :
    (Decoder.nullable (Decoder.within ValueType.decode?)).Recovers (· = ·)
      (encodeOption ValueType.encode t) t := by
  intro depth hdepth
  obtain ⟨u, hu, hsame⟩ := recovers_nullable ValueType.encode_ne_null (fun t _ => t.recovers)
    depth hdepth
  refine ⟨u, hu, ?_⟩
  cases hsame with
  | none => rfl
  | some h => rw [h]

theorem isWritten_hint (t : Option ValueType) :
    (encodeOption ValueType.encode t).IsWritten := by
  cases t with
  | none => trivial
  | some t => exact t.isWritten_encode

theorem PlaceholderStyle.isWritten_encode (s : PlaceholderStyle) : s.encode.IsWritten := by
  cases s <;> rfl

theorem CompileOptions.isWritten_encode (o : CompileOptions) : o.encode.IsWritten :=
  ⟨rfl, o.placeholder.isWritten_encode, trivial⟩

theorem CompileOptions.recovers (o : CompileOptions) :
    CompileOptions.decode?.Recovers (· = ·) o.encode o := by
  intro depth hdepth
  obtain ⟨n, rfl, -⟩ := Document.exists_of_nesting_record hdepth
  obtain ⟨style⟩ := o
  cases style <;> exact ⟨_, rfl, rfl⟩

/-! ## Parameters -/

namespace Parameter

/-- A parameter whose default can be read back, if it has one. -/
def IsLegible (p : Parameter) : Prop := ∀ v ∈ p.default, v.IsLegible

/-- Two parameters agree in having no default, the default NULL or the default null of JSON. -/
def SameNulls (p q : Parameter) : Prop :=
  (p.default = none ↔ q.default = none) ∧ (p.default = some .null ↔ q.default = some .null) ∧
    (p.default = some (.json .null) ↔ q.default = some (.json .null))

/-- **Equality keeps the nulls of parameters apart.** -/
theorem sameNulls_of_eq {p q : Parameter} (h : p.eq q = true) : p.SameNulls q := by
  obtain ⟨-, -, hdefault⟩ := eq_iff.mp h
  unfold SameNulls
  generalize p.default = v at hdefault
  generalize q.default = w at hdefault
  cases hdefault with
  | none => exact ⟨Iff.rfl, Iff.rfl, Iff.rfl⟩
  | some hvw =>
    refine ⟨iff_of_false nofun nofun, ?_, ?_⟩
    · rw [Option.some_inj, Option.some_inj]
      exact Value.eq_iff_of_isPlain rfl hvw
    · rw [Option.some_inj, Option.some_inj]
      constructor
      · rintro rfl
        exact Value.eq_jsonNull (Value.eq_symm hvw)
      · rintro rfl
        exact Value.eq_jsonNull hvw

/-- **A parameter is recovered from its document.** -/
theorem recovers {p : Parameter} (h : p.IsLegible) :
    Parameter.decode?.Recovers (fun p q => p.eq q = true) p.encode p := by
  intro depth hdepth
  obtain ⟨n, rfl, hparts⟩ := Document.exists_of_nesting_record hdepth
  simp only [List.forall_mem_cons] at hparts
  obtain ⟨-, hhint, hdefault, -⟩ := hparts
  obtain ⟨_, hhint, rfl⟩ := recovers_hint p.typeHint n hhint
  obtain ⟨default, hdefault, hsame⟩ := recovers_nullable Value.encode_ne_null
    (fun v hv => Value.recovers (h v hv)) n hdefault
  have hfields : fields? ["name", "type_hint", "default"] 3 (n + 1) p.encode = some _ :=
    fields?_record [("name", _), ("type_hint", _), ("default", _)] (by simp) 3 n
  refine ⟨⟨p.name, p.typeHint, default⟩, ?_, eq_iff.mpr ⟨rfl, rfl, hsame⟩⟩
  rw [decode?, hfields]
  simp only [List.map_cons, List.map_nil, present?, presentOr?, Option.bind_some,
    Nat.add_sub_cancel, hhint, hdefault]
  rfl

theorem isWritten_encode (p : Parameter) : p.encode.IsWritten := by
  refine Document.isWritten_record ?_
  simp only [List.forall_mem_cons]
  refine ⟨rfl, isWritten_hint p.typeHint, ?_, nofun⟩
  cases p.default with
  | none => trivial
  | some v => exact v.isWritten_encode

end Parameter

/-! ## Conflicts -/

namespace Conflict

/-- A conflict whose declarations can be read back. -/
def IsLegible (c : Conflict) : Prop := c.kept.IsLegible ∧ c.ignored.IsLegible

/-- A conflict is recovered from what stands behind the tag. -/
theorem recovers_body {c : Conflict} (h : c.IsLegible) :
    decodeBody?.Recovers (fun c d => c.eq d = true) (.record [("name", .text c.name),
      ("kept", c.kept.encode), ("ignored", c.ignored.encode)]) c := by
  intro depth hdepth
  obtain ⟨n, rfl, hparts⟩ := Document.exists_of_nesting_record hdepth
  simp only [List.forall_mem_cons] at hparts
  obtain ⟨-, hkept, hignored, -⟩ := hparts
  obtain ⟨kept, hkept, hsame⟩ := Parameter.recovers h.1 n hkept
  obtain ⟨ignored, hignored, hsame'⟩ := Parameter.recovers h.2 n hignored
  have hfields : fields? ["name", "kept", "ignored"] 3 (n + 1) (.record _) = some _ :=
    fields?_record [("name", .text c.name), ("kept", c.kept.encode), ("ignored", c.ignored.encode)]
      (by simp) 3 n
  refine ⟨⟨c.name, kept, ignored⟩, ?_, eq_iff.mpr ⟨rfl, hsame, hsame'⟩⟩
  rw [decodeBody?, hfields]
  simp only [List.map_cons, List.map_nil, present?, Option.bind_some, Nat.add_sub_cancel, hkept,
    hignored]
  rfl

/-- **A conflict is recovered from its document.** -/
theorem recovers {c : Conflict} (h : c.IsLegible) :
    Conflict.decode?.Recovers (fun c d => c.eq d = true) c.encode c := by
  intro depth hdepth
  obtain ⟨n, rfl, hbody⟩ := Document.exists_of_nesting_record hdepth
  obtain ⟨d, hd, hsame⟩ := recovers_body h n (hbody _ (List.mem_singleton_self _))
  refine ⟨d, ?_, hsame⟩
  rw [encode, Document.record, List.map_cons, List.map_nil, decode?, if_pos rfl]
  exact hd

theorem isWritten_encode (c : Conflict) : c.encode.IsWritten := by
  refine Document.isWritten_record ?_
  rw [List.forall_mem_singleton]
  refine Document.isWritten_record ?_
  simp only [List.forall_mem_cons]
  exact ⟨rfl, c.kept.isWritten_encode, c.ignored.isWritten_encode, nofun⟩

end Conflict

/-! ## Compiled queries -/

namespace CompiledQuery

/-- A compiled query in which all defaults can be read back. -/
structure IsLegible (q : CompiledQuery) : Prop where
  parameters : ∀ p ∈ q.parameters, p.IsLegible
  conflicts : ∀ c ∈ q.conflicts, c.IsLegible

/-- **A compiled query is recovered from its document.** -/
theorem recovers {q : CompiledQuery} (h : q.IsLegible) :
    CompiledQuery.decode?.Recovers (fun q r => q.eq r = true) q.encode q := by
  intro depth hdepth
  obtain ⟨n, rfl, hparts⟩ := Document.exists_of_nesting_record hdepth
  simp only [List.forall_mem_cons] at hparts
  obtain ⟨-, hparameters, hconflicts, -⟩ := hparts
  obtain ⟨ps, hps, hsame⟩ := recovers_list (fun p hp => Parameter.recovers (h.parameters p hp)) n
    hparameters
  obtain ⟨cs, hcs, hsame'⟩ := recovers_list (fun c hc => Conflict.recovers (h.conflicts c hc)) n
    hconflicts
  have hfields : fields? ["text", "parameters", "diagnostics"] 3 (n + 1) q.encode = some _ :=
    fields?_record [("text", _), ("parameters", _), ("diagnostics", _)] (by simp) 3 n
  refine ⟨⟨q.text, ps, cs⟩, ?_, eq_iff.mpr ⟨rfl, hsame, hsame'⟩⟩
  rw [decode?, hfields]
  simp only [List.map_cons, List.map_nil, present?, Option.bind_some, Nat.add_sub_cancel, hps, hcs]
  rfl

theorem isWritten_encode (q : CompiledQuery) : q.encode.IsWritten := by
  refine Document.isWritten_record ?_
  simp only [List.forall_mem_cons]
  exact ⟨rfl, Document.isWritten_map Parameter.isWritten_encode _,
    Document.isWritten_map Conflict.isWritten_encode _, nofun⟩

end CompiledQuery

/-! ## Bound queries -/

namespace BoundQuery

/-- A bound query whose values can be read back. -/
def IsLegible (q : BoundQuery) : Prop := ∀ v ∈ q.args, v.IsLegible

/-- Bound queries with the same text and the same type hints, whose values are equal in turn. -/
structure Equals (q r : BoundQuery) : Prop where
  sql : q.sql = r.sql
  args : List.Forall₂ (fun v w => (v == w) = true) q.args r.args
  typeHints : q.typeHints = r.typeHints

/-- **A bound query is recovered from its document.** -/
theorem recovers {q : BoundQuery} (h : q.IsLegible) :
    BoundQuery.decode?.Recovers Equals q.encode q := by
  intro depth hdepth
  obtain ⟨n, rfl, hparts⟩ := Document.exists_of_nesting_record hdepth
  simp only [List.forall_mem_cons] at hparts
  obtain ⟨-, hargs, hhints, -⟩ := hparts
  obtain ⟨args, hargs, hsame⟩ := recovers_list (fun v hv => Value.recovers (h v hv)) n hargs
  obtain ⟨hints, hhints, hsame'⟩ := recovers_list (fun t _ => recovers_hint t) n hhints
  rw [List.forall₂_eq_eq_eq] at hsame'
  have hfields : fields? ["sql", "args", "type_hints"] 2 (n + 1) q.encode = some _ :=
    fields?_record [("sql", _), ("args", _), ("type_hints", _)] (by simp) 2 n
  refine ⟨⟨q.sql, args, hints⟩, ?_, ⟨rfl, hsame, hsame'⟩⟩
  rw [decode?, hfields]
  simp only [List.map_cons, List.map_nil, present?, presentOr?, Option.bind_some,
    Nat.add_sub_cancel, hargs, hhints]
  rfl

theorem isWritten_encode (q : BoundQuery) : q.encode.IsWritten := by
  refine Document.isWritten_record ?_
  simp only [List.forall_mem_cons]
  exact ⟨rfl, Document.isWritten_map Value.isWritten_encode _,
    Document.isWritten_map isWritten_hint _, nofun⟩

end BoundQuery

/-! ## Texts -/

/-- **Whatever has a document is read back from its text**, as long as the values in it are legible and
its arrays and objects are nested fewer than 128 deep: values, types, parameters, conflicts, compiled
queries, options and bound queries. What is read equals what was written. No default, the default
NULL and the default null of JSON are never taken for one another, and a compiled query that was read
is consistent, and bound by any call, like the one written. -/
theorem decodeText?_encodeText :
    (∀ v : Value, v.IsLegible → v.encode.nesting ≤ Json.maxNesting →
      ∃ w, decodeText? (Decoder.within Value.decode?) (encodeText v.encode) = some w ∧
        (w == v) = true) ∧
    (∀ t : ValueType,
      decodeText? (Decoder.within ValueType.decode?) (encodeText t.encode) = some t) ∧
    (∀ p : Parameter, p.IsLegible → p.encode.nesting ≤ Json.maxNesting →
      ∃ p', decodeText? Parameter.decode? (encodeText p.encode) = some p' ∧
        p'.eq p = true ∧ p'.SameNulls p) ∧
    (∀ c : Conflict, c.IsLegible → c.encode.nesting ≤ Json.maxNesting →
      ∃ c', decodeText? Conflict.decode? (encodeText c.encode) = some c' ∧
        c'.eq c = true ∧ c'.kept.SameNulls c.kept ∧ c'.ignored.SameNulls c.ignored) ∧
    (∀ q : CompiledQuery, q.IsLegible → q.encode.nesting ≤ Json.maxNesting →
      ∃ q', decodeText? CompiledQuery.decode? (encodeText q.encode) = some q' ∧
        q'.eq q = true ∧ List.Forall₂ Parameter.SameNulls q'.parameters q.parameters ∧
        q'.ensureConsistent = q.ensureConsistent ∧
        ∀ args, OutcomesAlike BoundQuery.Alike (q'.call args) (q.call args)) ∧
    (∀ o : CompileOptions, decodeText? CompileOptions.decode? (encodeText o.encode) = some o) ∧
    ∀ b : BoundQuery, b.IsLegible → b.encode.nesting ≤ Json.maxNesting →
      ∃ b', decodeText? BoundQuery.decode? (encodeText b.encode) = some b' ∧ b'.Equals b := by
  refine ⟨fun v h hnesting => ?_, fun t => ?_, fun p h hnesting => ?_, fun c h hnesting => ?_,
    fun q h hnesting => ?_, fun o => ?_, fun b h hnesting => ?_⟩
  · exact exists_decodeText? v.isWritten_encode (Value.recovers h) hnesting
  · obtain ⟨_, ht, rfl⟩ := exists_decodeText? t.isWritten_encode t.recovers (Nat.zero_le _)
    exact ht
  · obtain ⟨p', hp', heq⟩ := exists_decodeText? p.isWritten_encode (Parameter.recovers h) hnesting
    exact ⟨p', hp', heq, Parameter.sameNulls_of_eq heq⟩
  · obtain ⟨c', hc', heq⟩ := exists_decodeText? c.isWritten_encode (Conflict.recovers h) hnesting
    obtain ⟨-, hkept, hignored⟩ := Conflict.eq_iff.mp heq
    exact ⟨c', hc', heq, Parameter.sameNulls_of_eq hkept, Parameter.sameNulls_of_eq hignored⟩
  · obtain ⟨q', hq', heq⟩ :=
      exists_decodeText? q.isWritten_encode (CompiledQuery.recovers h) hnesting
    have hnulls : List.Forall₂ Parameter.SameNulls q'.parameters q.parameters :=
      (CompiledQuery.eq_iff.mp heq).2.1.imp fun _ _ => Parameter.sameNulls_of_eq
    exact ⟨q', hq', heq, hnulls, CompiledQuery.ensureConsistent_eq heq,
      CompiledQuery.call_alike heq⟩
  · have hnesting : o.encode.nesting ≤ Json.maxNesting := by
      obtain ⟨style⟩ := o
      cases style <;> decide
    obtain ⟨_, ho, rfl⟩ := exists_decodeText? o.isWritten_encode o.recovers hnesting
    exact ho
  · exact exists_decodeText? b.isWritten_encode (BoundQuery.recovers h) hnesting

/-! ### An example -/

/-- An array with the nulls, numbers of all kinds, a text to be escaped and a leap second. -/
def sampleValue : Value :=
  .array [.array [.null, .json .null, .int32 (-1)], .text "a \"quote\"\n\u2028",
    .float32 ⟨0x3DCCCCCD⟩, .float64 ⟨0x3FB999999999999A⟩, .decimal ⟨true, 0, ⟨2, by decide⟩⟩,
    .timestamp ⟨1483228799, 1500000000⟩,
    .json (.object [("depth", .int 3), ("ratio", .float ⟨0xC004000000000000⟩)])]

/-- A parameter with the array for a default. -/
def sampleParameter : Parameter := ⟨"tags", some .array, some sampleValue⟩

/-- Two declarations of the parameter that do not agree. -/
def sampleConflict : Conflict := ⟨"tags", sampleParameter, ⟨"tags", none, some (.json .null)⟩⟩

/-- A query with a parameter of each kind of null. -/
def sampleQuery : CompiledQuery :=
  ⟨"SELECT * FROM items WHERE tags = $1 AND note = $2 AND extra = $3 AND id = $4",
    [sampleParameter, ⟨"note", none, some .null⟩, ⟨"extra", some .json, some (.json .null)⟩,
      ⟨"id", some .int64, none⟩], [sampleConflict]⟩

/-- The query with its defaults. -/
def sampleBound : BoundQuery :=
  ⟨sampleQuery.text, [sampleValue, .null, .json .null, .int64 7],
    [some .array, none, some .json, some .int64]⟩

theorem isLegible_sampleValue : sampleValue.IsLegible := by
  refine ⟨⟨trivial, trivial, trivial, trivial⟩, trivial, ?_, ?_, trivial, ?_, ?_, trivial⟩
  · exact ⟨rfl, by decide +kernel⟩
  · exact ⟨rfl, by decide +kernel⟩
  · exact ⟨by decide +kernel, by decide +kernel, by decide +kernel⟩
  · exact ⟨by decide +kernel, ⟨by decide, by decide⟩, ⟨rfl, by decide +kernel⟩, trivial⟩

/-- The sample is read back, in all its parts. -/
theorem decodeText?_sample :
    (sampleValue.IsLegible ∧ sampleValue.encode.nesting ≤ Json.maxNesting ∧
      ∃ w, decodeText? (Decoder.within Value.decode?) (encodeText sampleValue.encode) = some w ∧
        (w == sampleValue) = true) ∧
    (sampleParameter.IsLegible ∧ sampleParameter.encode.nesting ≤ Json.maxNesting ∧
      ∃ p, decodeText? Parameter.decode? (encodeText sampleParameter.encode) = some p ∧
        p.eq sampleParameter = true ∧ p.SameNulls sampleParameter) ∧
    (sampleConflict.IsLegible ∧ sampleConflict.encode.nesting ≤ Json.maxNesting ∧
      ∃ c, decodeText? Conflict.decode? (encodeText sampleConflict.encode) = some c ∧
        c.eq sampleConflict = true ∧ c.kept.SameNulls sampleConflict.kept ∧
        c.ignored.SameNulls sampleConflict.ignored) ∧
    (sampleQuery.IsLegible ∧ sampleQuery.encode.nesting ≤ Json.maxNesting ∧
      ∃ q, decodeText? CompiledQuery.decode? (encodeText sampleQuery.encode) = some q ∧
        q.eq sampleQuery = true ∧
        List.Forall₂ Parameter.SameNulls q.parameters sampleQuery.parameters ∧
        q.ensureConsistent = sampleQuery.ensureConsistent ∧
        ∀ args, OutcomesAlike BoundQuery.Alike (q.call args) (sampleQuery.call args)) ∧
    sampleBound.IsLegible ∧ sampleBound.encode.nesting ≤ Json.maxNesting ∧
      ∃ b, decodeText? BoundQuery.decode? (encodeText sampleBound.encode) = some b ∧
        b.Equals sampleBound := by
  obtain ⟨hvalue, -, hparameter, hconflict, hquery, -, hbound⟩ := decodeText?_encodeText
  have v : sampleValue.IsLegible := isLegible_sampleValue
  have p : sampleParameter.IsLegible := by rintro _ ⟨⟩; exact v
  have c : sampleConflict.IsLegible := ⟨p, by rintro _ ⟨⟩; trivial⟩
  have q : sampleQuery.IsLegible := by
    constructor
    · simp only [sampleQuery, List.forall_mem_cons]
      exact ⟨p, by rintro _ ⟨⟩; trivial, by rintro _ ⟨⟩; trivial, nofun, nofun⟩
    · simp only [sampleQuery, List.forall_mem_cons]
      exact ⟨c, nofun⟩
  have b : sampleBound.IsLegible := by
    simp only [BoundQuery.IsLegible, sampleBound, List.forall_mem_cons]
    exact ⟨v, trivial, trivial, trivial, nofun⟩
  exact ⟨⟨v, by decide +kernel, hvalue _ v (by decide +kernel)⟩,
    ⟨p, by decide +kernel, hparameter _ p (by decide +kernel)⟩,
    ⟨c, by decide +kernel, hconflict _ c (by decide +kernel)⟩,
    ⟨q, by decide +kernel, hquery _ q (by decide +kernel)⟩,
    b, by decide +kernel, hbound _ b (by decide +kernel)⟩

end ParamSql
