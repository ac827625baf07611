import ParamSql.Proofs.Codec.Decoding
import ParamSql.Proofs.Json.Values
import ParamSql.Proofs.Number.Conversion
import ParamSql.Proofs.Number.Decimal
import ParamSql.Proofs.Time.Reading
import ParamSql.Proofs.Uuid
import ParamSql.Proofs.Value.Equality

/-!
# Values read back

The document of a value says an equal value: the same one but for decimal zeros, which drop their
signs.

* `Value.IsLegible` — the values whose numbers and timestamps can be read back.
* `ValueType.decode?_encode` — types.
* `Value.exists_decode?_encode`, `Value.isWritten_encode` — values.
* `Value.eq_iff_of_isPlain`, `Value.eq_jsonNull` — equality keeps NULL and the null of JSON apart.
-/

set_option autoImplicit false

namespace ParamSql

open Codec

/-! ## Equality with itself -/

theorem Binary.eq_self {f : BinaryFormat} {x : Binary f} (h : x.isFinite = true) :
    x.eq x = true := by
  have hnan : x.isNaN = false := by
    rw [isFinite, bne_iff_ne] at h
    rw [isNaN, beq_eq_false_iff_ne.mpr h, Bool.false_and]
  simp [eq, hnan]

namespace Json

mutual

/-- A value that can be said equals itself: there is no NaN in it. -/
theorem eq_self : ∀ j : Json, j.IsLegible → j.eq j = true
  | .null, _ => rfl
  | .bool _, _ => BEq.rfl
  | .int _, _ => BEq.rfl
  | .string _, _ => BEq.rfl
  | .float _, h => Binary.eq_self h.1
  | .array items, h => eqEach_self items h
  | .object fields, h => eqFields_self fields h.2

theorem eqEach_self : ∀ js : List Json, IsLegibleEach js → eqEach js js = true
  | [], _ => rfl
  | j :: js, h => by rw [eqEach, eq_self j h.1, eqEach_self js h.2, Bool.and_self]

theorem eqFields_self :
    ∀ fs : List (String × Json), IsLegibleFields fs → eqFields fs fs = true
  | [], _ => rfl
  | (k, j) :: fs, h => by
    rw [eqFields, eq_self j h.1, eqFields_self fs h.2, Bool.and_true, Bool.and_true]
    exact BEq.rfl

end

end Json

/-! ## Types -/

namespace ValueType

theorem ofTag?_tag (t : ValueType) : ofTag? t.tag = some t := by cases t <;> decide

theorem tag_injective {t u : ValueType} (h : t.tag = u.tag) : t = u := by
  rw [← Option.some_inj, ← ofTag?_tag t, h, ofTag?_tag]

theorem tag_ne_null (t : ValueType) : t.tag ≠ "Null" := by cases t <;> decide

/-- **The document of a type says the type.** -/
theorem decode?_encode (t : ValueType) : decode? t.encode = some t := by cases t <;> decide

/-- A type is recovered from its document. -/
theorem recovers (t : ValueType) : (Decoder.within decode?).Recovers (· = ·) t.encode t :=
  recovers_within ⟨t, t.decode?_encode, rfl⟩

theorem isWritten_encode (t : ValueType) : t.encode.IsWritten := rfl

theorem encode_ne_null (t : ValueType) : t.encode ≠ .null := nofun

end ValueType

/-! ## Values -/

/-- A finite number of 32 bits whose numeral is read as a double that is rounded to the number. -/
def Binary.IsLegibleSingle (x : Binary .single) : Prop :=
  x.isFinite = true ∧
    (Numeral.ofBinary Numeral.jsonSingle x).toDouble?.map (Binary.convert .single) = some x

namespace Value

theorem eq_self_of_isPlain {v : Value} (h : v.isPlain = true) : (v == v) = true := by
  show v.eq v = true
  cases v <;> simp_all [isPlain, eq]

mutual

/-- A value whose floating point numbers are finite and, like its timestamps, read as they were
written; the JSON values in it are such that a document can say them. -/
def IsLegible : Value → Prop
  | .null | .bool _ | .int32 _ | .int64 _ | .text _ | .bytes _ | .uuid _ | .decimal _ => True
  | .float32 x => x.IsLegibleSingle
  | .float64 x => x.IsLegible
  | .json j => j.IsLegible
  | .timestamp t => t.IsLegible
  | .array items => IsLegibleEach items

/-- Values that are each legible. -/
def IsLegibleEach : List Value → Prop
  | [] => True
  | v :: vs => IsLegible v ∧ IsLegibleEach vs

end

/-! ### Scalars -/

/-- What stands behind the tag of a type other than that of arrays is a scalar. -/
theorem decode?_tagged {t : ValueType} (ht : t ≠ .array) (d : Document) :
    decode? (tagged t d) = decodeScalar? t d := by
  have htag : t.tag ≠ ValueType.array.tag := fun h => ht (ValueType.tag_injective h)
  rw [tagged, Document.record, List.map_cons, List.map_nil, decode?]
  unfold decodeTagged?
  rw [if_neg htag, if_neg t.tag_ne_null, ValueType.ofTag?_tag, Option.bind_some]

theorem decodeInt?_int {least most n : Int} (h : least ≤ n ∧ n ≤ most) (hleast : -2 ^ 63 ≤ least)
    (hmost : most < 2 ^ 64) : decodeInt? least most (.int n) = some n := by
  have hn : (Numeral.ofInt n).toInt? = some n := Numeral.toInt?_ofInt (by omega) (by omega)
  simp only [Document.int, decodeInt?, hn, Option.bind_some, if_pos h]

theorem decodeByte?_int (b : UInt8) : decodeByte? (.int b.toNat) = some b := by
  have hb := b.toNat_lt
  rw [decodeByte?, decodeInt?_int (by omega) (by decide) (by decide), Option.map_some,
    Int.toNat_natCast, UInt8.ofNat_toNat]

theorem decodeBytes?_ints (bs : List UInt8) :
    (bs.map fun b => Document.int b.toNat).mapM decodeByte? = some bs := by
  obtain ⟨as, has, hsame⟩ : ∃ as, (bs.map fun b => Document.int b.toNat).mapM decodeByte? = some as ∧
      List.Forall₂ (· = ·) as bs :=
    exists_mapM fun b _ => ⟨b, decodeByte?_int b, rfl⟩
  rw [List.forall₂_eq_eq_eq] at hsame
  rw [has, hsame]

theorem decodeInt32?_int (n : Int32) :
    decodeScalar? .int32 (.int n.toInt) = some (.int32 n) := by
  have hleast := n.le_toInt
  have hmost := n.toInt_lt
  have hbounds : Int32.minValue.toInt ≤ n.toInt ∧ n.toInt ≤ Int32.maxValue.toInt := by
    rw [Int32.toInt_minValue, Int32.toInt_maxValue]
    omega
  rw [decodeScalar?, decodeInt?_int hbounds (by decide) (by decide), Option.map_some,
    Int32.ofInt_toInt]

theorem decodeInt64?_int (n : Int64) :
    decodeScalar? .int64 (.int n.toInt) = some (.int64 n) := by
  have hleast := n.le_toInt
  have hmost := n.toInt_lt
  have hbounds : Int64.minValue.toInt ≤ n.toInt ∧ n.toInt ≤ Int64.maxValue.toInt := by
    rw [Int64.toInt_minValue, Int64.toInt_maxValue]
    omega
  rw [decodeScalar?, decodeInt?_int hbounds (by decide) (by decide), Option.map_some,
    Int64.ofInt_toInt]

/-- The numeral of a finite number is no integer, so it is read as a double. -/
theorem decodeBinary?_encodeBinary {f : BinaryFormat} (g : BinaryFormat) (style : Numeral.Style)
    {x : Binary f} (h : x.isFinite = true) :
    decodeBinary? g (encodeBinary style x) =
      (Numeral.ofBinary style x).toDouble?.map (Binary.convert g) := by
  rw [encodeBinary, if_pos h, decodeBinary?,
    Numeral.toInt?_eq_none (Numeral.ofBinary_spec style x).2]

theorem decodeChars?_chars {α : Type} (read : List Char → Option α) (cs : List Char) :
    decodeChars? read (chars cs) = read cs := by
  rw [chars, Document.text, decodeChars?, String.toList_ofList]

/-! ### All values -/

mutual

/-- **The document of a value says an equal value.** -/
theorem exists_decode?_encode :
    ∀ v : Value, v.IsLegible → ∃ w, decode? v.encode = some w ∧ (w == v) = true
  | .null, _ => ⟨.null, rfl, rfl⟩
  | .bool b, _ => ⟨.bool b, decode?_tagged (by decide) _, eq_self_of_isPlain rfl⟩
  | .int32 n, _ => by
    refine ⟨.int32 n, ?_, eq_self_of_isPlain rfl⟩
    rw [encode, decode?_tagged (by decide), decodeInt32?_int]
  | .int64 n, _ => by
    refine ⟨.int64 n, ?_, eq_self_of_isPlain rfl⟩
    rw [encode, decode?_tagged (by decide), decodeInt64?_int]
  | .float32 x, h => by
    refine ⟨.float32 x, ?_, Binary.eq_self h.1⟩
    rw [encode, decode?_tagged (by decide), decodeScalar?, decodeBinary?_encodeBinary _ _ h.1, h.2]
    rfl
  | .float64 x, h => by
    refine ⟨.float64 x, ?_, Binary.eq_self h.1⟩
    rw [encode, decode?_tagged (by decide), decodeScalar?, decodeBinary?_encodeBinary _ _ h.1, h.2,
      Option.map_some, Binary.convert_self x h.1]
    rfl
  | .text s, _ => by
    refine ⟨.text s, ?_, eq_self_of_isPlain rfl⟩
    rw [encode, decode?_tagged (by decide), decodeScalar?, Document.text, decodeChars?,
      String.ofList_toList]
    rfl
  | .bytes bs, _ => by
    refine ⟨.bytes bs, ?_, eq_self_of_isPlain rfl⟩
    rw [encode, decode?_tagged (by decide)]
    simp only [decodeScalar?, decodeBytes?_ints, Option.map_some]
  | .json j, h => by
    refine ⟨.json j, ?_, Json.eq_self j h⟩
    rw [encode, decode?_tagged (by decide), decodeScalar?, Json.ofDocument?_toDocument j h]
    rfl
  | .uuid u, _ => by
    refine ⟨.uuid u, ?_, eq_self_of_isPlain rfl⟩
    rw [encode, decode?_tagged (by decide), decodeScalar?, decodeChars?_chars, Uuid.ofText?_print]
    rfl
  | .timestamp t, h => by
    refine ⟨.timestamp t, ?_, eq_self_of_isPlain rfl⟩
    rw [encode, decode?_tagged (by decide), decodeScalar?, decodeChars?_chars,
      Timestamp.ofText?_print h]
    rfl
  | .decimal d, _ => by
    refine ⟨.decimal d.dropZeroSign, ?_, d.eq_dropZeroSign⟩
    rw [encode, decode?_tagged (by decide), decodeScalar?, chars, Document.text, decodeDecimal?,
      String.toList_ofList, Decimal.ofText?_print]
    rfl
  | .array items, h => by
    obtain ⟨ws, hws, heq⟩ := exists_decodeEach?_encodeEach items h
    refine ⟨.array ws, ?_, heq⟩
    simp only [encode, tagged, Document.record, List.map_cons, List.map_nil, decode?,
      decodeTagged?, if_true, hws, Option.map_some]

theorem exists_decodeEach?_encodeEach :
    ∀ vs : List Value, IsLegibleEach vs →
      ∃ ws, decodeEach? (encodeEach vs) = some ws ∧ eqEach ws vs = true
  | [], _ => ⟨[], rfl, rfl⟩
  | v :: vs, h => by
    obtain ⟨w, hw, heq⟩ := exists_decode?_encode v h.1
    obtain ⟨ws, hws, heqs⟩ := exists_decodeEach?_encodeEach vs h.2
    refine ⟨w :: ws, ?_, ?_⟩
    · simp only [encodeEach, decodeEach?, hw, hws]
    · rw [eqEach, heqs, Bool.and_true]
      exact heq

end

/-- A value is recovered from its document. -/
theorem recovers {v : Value} (h : v.IsLegible) :
    (Decoder.within decode?).Recovers (fun w v => (w == v) = true) v.encode v :=
  recovers_within (exists_decode?_encode v h)

theorem isWritten_encodeBinary {f : BinaryFormat} (style : Numeral.Style) (x : Binary f) :
    (encodeBinary style x).IsWritten := by
  unfold encodeBinary
  split
  · exact (Numeral.ofBinary_spec style x).1
  · trivial

theorem isWritten_tagged (t : ValueType) {d : Document} (h : d.IsWritten) :
    (tagged t d).IsWritten :=
  Document.isWritten_record (by simpa using h)

mutual

/-- **The document of a value is read back from text**, whatever the value. -/
theorem isWritten_encode : ∀ v : Value, v.encode.IsWritten
  | .null => rfl
  | .bool _ => isWritten_tagged _ trivial
  | .int32 n => isWritten_tagged _ (Numeral.isWritten_ofInt n.toInt)
  | .int64 n => isWritten_tagged _ (Numeral.isWritten_ofInt n.toInt)
  | .float32 x => isWritten_tagged _ (isWritten_encodeBinary _ x)
  | .float64 x => isWritten_tagged _ (isWritten_encodeBinary _ x)
  | .text _ => isWritten_tagged _ rfl
  | .bytes bs => by
    refine isWritten_tagged _ (Document.isWritten_map (fun b => ?_) bs)
    exact Numeral.isWritten_ofInt _
  | .json j => isWritten_tagged _ j.isWritten_toDocument
  | .array items => isWritten_tagged _ (isWrittenEach_encodeEach items)
  | .uuid _ => isWritten_tagged _ rfl
  | .timestamp _ => isWritten_tagged _ rfl
  | .decimal _ => isWritten_tagged _ rfl

theorem isWrittenEach_encodeEach :
    ∀ vs : List Value, Document.IsWrittenEach (encodeEach vs)
  | [] => trivial
  | v :: vs => ⟨isWritten_encode v, isWrittenEach_encodeEach vs⟩

end

/-- No value is null as a document, not even NULL. -/
theorem encode_ne_null (v : Value) : v.encode ≠ .null := by cases v <;> exact nofun

/-- A plain value and what equals it are the same. -/
theorem eq_iff_of_isPlain {u v w : Value} (hu : u.isPlain = true) (h : (v == w) = true) :
    v = u ↔ w = u := by
  constructor
  · rintro rfl
    exact (eq_of_isPlain hu h).symm
  · rintro rfl
    exact (eq_of_isPlain hu (eq_symm h)).symm

/-- Nothing but the null of JSON equals the null of JSON. -/
theorem eq_jsonNull {v : Value} (h : (v == .json .null) = true) : v = .json .null := by
  cases v with
  | json j => rw [(Json.eq_of_isPlain rfl (Json.eq_symm h)).symm]
  | _ => cases h

end Value

end ParamSql
