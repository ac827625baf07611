import ParamSql.Json.Parser
import ParamSql.Proofs.Number.Writing

/-!
# JSON documents read back

The compact text of a document is read as that document, if its numerals follow the grammar and its
strings stand for texts.

* `pieces?_stringChar`, `stringBody?_print` — strings, character by character.
* `numeral?_print` — numerals, before anything that does not go on with them.
* `Document.IsWritten` — the documents that are read back.
* `value?_print`, `items?_print`, `fields?_print` — values, items and fields, by the structure of
  documents; the length of a text bounds the calls that reading it takes.
* `ofText?_print` — whole texts.
-/

set_option autoImplicit false

namespace ParamSql.Document

open ParamSql.Text

/-! ## Strings -/

/-- A code unit below the surrogates is a character by itself. -/
theorem joinPieces?_codeUnit {n : Nat} (h : n < 0xd800) (ps : List Piece) :
    joinPieces? (.codeUnit n :: ps) = (joinPieces? ps).map (Char.ofNat n :: ·) := by
  have hhigh : isHighSurrogate n = false := by
    rw [isHighSurrogate, decide_eq_false (Nat.not_le.mpr h), Bool.false_and]
  have hlow : isLowSurrogate n = false := by
    rw [isLowSurrogate, decide_eq_false (by omega), Bool.false_and]
  cases ps with
  | nil => simp [joinPieces?, hhigh, hlow]
  | cons p ps => cases p <;> simp [joinPieces?, hhigh, hlow]

theorem pieces?_escape {e c : Char} (h : escapedChar? e = some c) (rest : List Char) :
    pieces? ('\\' :: e :: rest) = (pieces? rest).map fun r => (.char c :: r.1, r.2) := by
  have hu : e ≠ 'u' := by
    rintro rfl
    cases h
  simp [pieces?, hu, h, Option.map_eq_bind]

theorem pieces?_unit {n : Nat} (h : n < 16 ^ 4) (rest : List Char) :
    pieces? ('\\' :: 'u' :: lowerHex 4 n ++ rest) =
      (pieces? rest).map fun r => (.codeUnit n :: r.1, r.2) := by
  have hread := readHex?_lowerHex 4 n
  rw [Nat.mod_eq_of_lt h] at hread
  simp only [lowerHex, List.nil_append, List.cons_append] at hread ⊢
  simp [pieces?, hread, Option.map_eq_bind]

theorem pieces?_plain {c : Char} (hquote : c ≠ '"') (hescape : c ≠ '\\') (h : ¬c.toNat < 0x20)
    (rest : List Char) :
    pieces? (c :: rest) = (pieces? rest).map fun r => (.char c :: r.1, r.2) := by
  simp [pieces?, hescape, h, Option.map_eq_bind]

/-- **A character is written as one part of a string**, which stands for it. -/
theorem pieces?_stringChar (c : Char) (rest : List Char) :
    ∃ p, (∀ ps, joinPieces? (p :: ps) = (joinPieces? ps).map (c :: ·)) ∧
      pieces? (stringChar c ++ rest) = (pieces? rest).map fun r => (p :: r.1, r.2) := by
  -- the escapes of one letter
  have hletter : ∀ e d, escapedChar? e = some d → stringChar d = ['\\', e] → c = d →
      ∃ p, (∀ ps, joinPieces? (p :: ps) = (joinPieces? ps).map (c :: ·)) ∧
        pieces? (stringChar c ++ rest) = (pieces? rest).map fun r => (p :: r.1, r.2) := by
    rintro e d he hd rfl
    exact ⟨.char c, fun _ => rfl, hd ▸ pieces?_escape he rest⟩
  by_cases hquote : c = '"'
  · exact hletter '"' _ rfl rfl hquote
  by_cases hescape : c = '\\'
  · exact hletter '\\' _ rfl rfl hescape
  by_cases hb : c = '\x08'
  · exact hletter 'b' _ rfl rfl hb
  by_cases hf : c = '\x0c'
  · exact hletter 'f' _ rfl rfl hf
  by_cases hn : c = '\n'
  · exact hletter 'n' _ rfl rfl hn
  by_cases hr : c = '\r'
  · exact hletter 'r' _ rfl rfl hr
  by_cases ht : c = '\t'
  · exact hletter 't' _ rfl rfl ht
  rw [stringChar, if_neg hquote, if_neg hescape, if_neg hb, if_neg hf, if_neg hn, if_neg hr,
    if_neg ht]
  split
  · rename_i hcontrol
    refine ⟨.codeUnit c.toNat, fun ps => ?_, pieces?_unit (by omega) rest⟩
    rw [joinPieces?_codeUnit (by omega), Char.ofNat_toNat]
  · rename_i hcontrol
    exact ⟨.char c, fun _ => rfl, pieces?_plain hquote hescape hcontrol rest⟩

/-- **A string is read back** up to its closing quote, whatever follows. -/
theorem stringBody?_print (s : String) (rest : List Char) :
    stringBody? (s.toList.flatMap stringChar ++ '"' :: rest) = some (some s, rest) := by
  have hpieces : ∀ cs : List Char, ∃ ps, joinPieces? ps = some cs ∧
      pieces? (cs.flatMap stringChar ++ '"' :: rest) = some (ps, rest) := by
    intro cs
    induction cs with
    | nil => exact ⟨[], rfl, by simp [pieces?]⟩
    | cons c cs ih =>
      obtain ⟨ps, hjoin, hread⟩ := ih
      obtain ⟨p, hp, hc⟩ := pieces?_stringChar c (cs.flatMap stringChar ++ '"' :: rest)
      refine ⟨p :: ps, by rw [hp, hjoin]; rfl, ?_⟩
      rw [List.flatMap_cons, List.append_assoc, hc, hread]
      rfl
  obtain ⟨ps, hjoin, hread⟩ := hpieces s.toList
  rw [stringBody?, hread]
  simp [hjoin]

/-! ## Numerals -/

/-- What may follow a numeral that is complete: nothing that goes on with it. -/
def EndsNumeral (cs : List Char) : Prop :=
  ∀ c ∈ cs.head?, c.isDigit = false ∧ c ≠ '.' ∧ c ≠ 'e' ∧ c ≠ 'E'

theorem endsNumeral_nil : EndsNumeral [] := nofun

theorem endsNumeral_comma (cs : List Char) : EndsNumeral (',' :: cs) := by
  rintro _ ⟨⟩
  decide

theorem endsNumeral_bracket (cs : List Char) : EndsNumeral (']' :: cs) := by
  rintro _ ⟨⟩
  decide

theorem endsNumeral_brace (cs : List Char) : EndsNumeral ('\x7d' :: cs) := by
  rintro _ ⟨⟩
  decide

theorem EndsNumeral.noDigitFirst {cs : List Char} (h : EndsNumeral cs) : NoDigitFirst cs :=
  fun c hc => (h c hc).1

/-- The power of ten of a numeral. -/
def exponentChars : Option Int → List Char
  | none => []
  | some e => 'e' :: signedDigits e

/-- The digits of a numeral behind its point. -/
def fractionChars (digits : List Char) : List Char :=
  if digits.isEmpty then [] else '.' :: digits

theorem digits?_append {digits rest : List Char} (hd : AllDigits digits) (hne : digits ≠ [])
    (hr : NoDigitFirst rest) : digits? (digits ++ rest) = some (digits, rest) := by
  rw [digits?, takeWhile_digits hd hr, dropWhile_digits hd hr]
  simp [hne]

theorem signedExponent?_digitsOf (negative : Bool) (n : Nat) {rest : List Char}
    (hr : NoDigitFirst rest) :
    signedExponent? negative (digitsOf n ++ rest) =
      some (some (if negative then -(n : Int) else n), rest) := by
  rw [signedExponent?, digits?_append (allDigits_digitsOf n) (digitsOf_ne_nil n) hr]
  simp

theorem exponent?_print (e : Option Int) {rest : List Char} (hr : EndsNumeral rest) :
    exponent? (exponentChars e ++ rest) = some (e, rest) := by
  cases e with
  | none =>
    cases rest with
    | nil => rfl
    | cons c rest =>
      obtain ⟨-, -, he, hE⟩ := hr c rfl
      simp [exponentChars, exponent?, he, hE]
  | some e =>
    have hread := fun negative => signedExponent?_digitsOf negative e.natAbs hr.noDigitFirst
    by_cases h : e < 0
    · have habs : -(e.natAbs : Int) = e := by omega
      have hnegative := hread true
      rw [if_pos rfl, habs] at hnegative
      simp [exponentChars, exponent?, signedDigits, h, hnegative]
    · have habs : (e.natAbs : Int) = e := by omega
      have hpositive := hread false
      rw [if_neg Bool.false_ne_true, habs] at hpositive
      simp [exponentChars, exponent?, signedDigits, h, hpositive]

theorem noDigitFirst_exponentChars (e : Option Int) {rest : List Char} (hr : EndsNumeral rest) :
    NoDigitFirst (exponentChars e ++ rest) := by
  cases e with
  | none => exact hr.noDigitFirst
  | some e => exact noDigitFirst_cons rfl

theorem fraction?_print {digits : List Char} (hd : AllDigits digits) {rest : List Char}
    (hr : NoDigitFirst rest) (hpoint : rest.head? ≠ some '.') :
    fraction? (fractionChars digits ++ rest) = some (digits, rest) := by
  cases digits with
  | nil =>
    cases rest with
    | nil => rfl
    | cons c rest =>
      have hc : c ≠ '.' := fun h => hpoint (congrArg some h)
      simp [fractionChars, fraction?, hc]
  | cons d ds => exact digits?_append hd (by simp) hr

theorem noDigitFirst_fractionChars (digits : List Char) {rest : List Char}
    (hr : NoDigitFirst rest) : NoDigitFirst (fractionChars digits ++ rest) := by
  cases digits with
  | nil => exact hr
  | cons d ds => exact noDigitFirst_cons rfl

theorem whole?_append {digits rest : List Char} (hd : AllDigits digits) (hne : digits ≠ [])
    (hlead : digits.head? = some '0' → digits.length = 1) (hr : NoDigitFirst rest) :
    whole? (digits ++ rest) = some (digits, rest) := by
  have hsingle : (decide (1 < digits.length) && digits.head? == some '0') = false := by
    by_cases hhead : digits.head? = some '0'
    · simp [hlead hhead]
    · simp [hhead]
  rw [whole?, digits?_append hd hne hr]
  simp only [Option.bind_eq_bind, Option.bind_some, hsingle, Bool.false_eq_true, if_false]

/-- **A numeral that follows the grammar is read back** before anything that ends it. -/
theorem numeral?_print {n : Numeral} (hn : n.IsWritten) {rest : List Char}
    (hr : EndsNumeral rest) : numeral? (n.print ++ rest) = some (n, rest) := by
  obtain ⟨negative, whole, fraction, exponent⟩ := n
  have hexponent := noDigitFirst_exponentChars exponent hr
  have hpoint : (exponentChars exponent ++ rest).head? ≠ some '.' := by
    cases exponent with
    | none => exact fun h => (hr '.' h).2.1 rfl
    | some e => simp [exponentChars]
  have hunsigned : unsigned? negative
      (whole ++ (fractionChars fraction ++ (exponentChars exponent ++ rest))) =
        some (⟨negative, whole, fraction, exponent⟩, rest) := by
    simp [unsigned?, whole?_append hn.whole hn.whole_ne_nil hn.leading_zero
      (noDigitFirst_fractionChars fraction hexponent), fraction?_print hn.fraction hexponent hpoint,
      exponent?_print exponent hr]
  have hprint : Numeral.print ⟨negative, whole, fraction, exponent⟩ ++ rest =
      (if negative then ['-'] else [])
        ++ (whole ++ (fractionChars fraction ++ (exponentChars exponent ++ rest))) := by
    simp only [Numeral.print, fractionChars, List.append_assoc]
    cases exponent <;> rfl
  rw [hprint]
  cases negative with
  | true => exact hunsigned
  | false =>
    -- the first character is a digit and not a sign
    obtain ⟨d, ds, rfl⟩ := List.exists_cons_of_ne_nil hn.whole_ne_nil
    have hd : d ≠ '-' := by
      rintro rfl
      exact absurd (hn.whole '-' (by simp)) (by decide)
    rw [← hunsigned, numeral?.eq_def]
    split
    · rename_i hsign
      exact absurd (List.cons.inj hsign).1 hd
    · rfl

/-! ## Values -/

mutual

/-- A document whose numerals follow the grammar and whose strings stand for texts. -/
def IsWritten : Document → Prop
  | .null | .bool _ => True
  | .number n => n.IsWritten
  | .string s => s.isSome = true
  | .array items => IsWrittenEach items
  | .object fields => IsWrittenFields fields

/-- Documents that are each written so. -/
def IsWrittenEach : List Document → Prop
  | [] => True
  | d :: ds => IsWritten d ∧ IsWrittenEach ds

/-- Fields whose names stand for texts and whose documents are written so. -/
def IsWrittenFields : List (Option String × Document) → Prop
  | [] => True
  | (k, d) :: fs => k.isSome = true ∧ IsWritten d ∧ IsWrittenFields fs

end

/-! ### First characters -/

/-- A character that is no white space and does not close an array or object. -/
def Opens (c : Char) : Prop := isSpace c = false ∧ c ≠ ']' ∧ c ≠ '\x7d'

instance (c : Char) : Decidable (Opens c) := inferInstanceAs (Decidable (_ ∧ _ ∧ _))

theorem skipSpace_cons {c : Char} (h : isSpace c = false) (cs : List Char) :
    skipSpace (c :: cs) = c :: cs := by
  rw [skipSpace, List.dropWhile_cons_of_neg (by simp [h])]

/-- What a numeral starts with is nothing else that a value starts with. -/
theorem startsNumeral_ne {c : Char} (h : c = '-' ∨ c.isDigit = true) :
    Opens c ∧ c ≠ '[' ∧ c ≠ '\x7b' ∧ c ≠ '"' ∧ c ≠ 'n' ∧ c ≠ 't' ∧ c ≠ 'f' := by
  have hne : ∀ d : Char, d ≠ '-' → d.isDigit = false → c ≠ d := by
    rintro d hminus hdigit rfl
    rcases h with h | h
    · exact hminus h
    · rw [hdigit] at h
      cases h
  have hspace : isSpace c = false := by
    simp [isSpace, hne ' ' (by decide) rfl, hne '\t' (by decide) rfl, hne '\n' (by decide) rfl,
      hne '\r' (by decide) rfl]
  exact ⟨⟨hspace, hne _ (by decide) rfl, hne _ (by decide) rfl⟩, hne _ (by decide) rfl,
    hne _ (by decide) rfl, hne _ (by decide) rfl, hne _ (by decide) rfl, hne _ (by decide) rfl,
    hne _ (by decide) rfl⟩

theorem exists_cons_numeral {n : Numeral} (hn : n.IsWritten) :
    ∃ c cs, n.print = c :: cs ∧ (c = '-' ∨ c.isDigit = true) := by
  obtain ⟨d, ds, hwhole⟩ := List.exists_cons_of_ne_nil hn.whole_ne_nil
  have hd : d.isDigit = true := hn.whole d (by simp [hwhole])
  cases hnegative : n.negative with
  | true => exact ⟨'-', _, by simp [Numeral.print, hnegative]; rfl, .inl rfl⟩
  | false => exact ⟨d, _, by simp [Numeral.print, hnegative, hwhole]; rfl, .inr hd⟩

/-- Every value starts with a character that opens it. -/
theorem exists_cons_print {d : Document} (hd : d.IsWritten) :
    ∃ c cs, d.print = c :: cs ∧ Opens c := by
  match d, hd with
  | .null, _ => exact ⟨_, _, rfl, by decide⟩
  | .bool true, _ => exact ⟨_, _, rfl, by decide⟩
  | .bool false, _ => exact ⟨_, _, rfl, by decide⟩
  | .number n, hn =>
    obtain ⟨c, cs, hprint, hc⟩ := exists_cons_numeral hn
    exact ⟨c, cs, hprint, (startsNumeral_ne hc).1⟩
  | .string (some s), _ => exact ⟨_, _, rfl, by decide⟩
  | .array items, _ => exact ⟨_, _, rfl, by decide⟩
  | .object fields, _ => exact ⟨_, _, rfl, by decide⟩

/-! ### One step of reading -/

theorem value?_scalar (n : Nat) {c : Char} {cs : List Char} (hspace : isSpace c = false)
    (harray : c ≠ '[') (hobject : c ≠ '\x7b') : value? (n + 1) (c :: cs) = scalar? (c :: cs) := by
  rw [value?, skipSpace_cons hspace]
  split
  · rename_i heq
    exact absurd (List.cons.inj heq).1 harray
  · rename_i heq
    exact absurd (List.cons.inj heq).1 hobject
  · rfl

theorem value?_array (n : Nat) {c : Char} (cs : List Char) (hc : Opens c) :
    value? (n + 1) ('[' :: c :: cs) = (items? n (c :: cs)).map fun r => (.array r.1, r.2) := by
  rw [value?, skipSpace_cons rfl]
  simp only [skipSpace_cons hc.1]
  split
  · rename_i heq
    exact absurd (List.cons.inj heq).1 hc.2.1
  · rfl

theorem value?_object (n : Nat) {c : Char} (cs : List Char) (hc : Opens c) :
    value? (n + 1) ('\x7b' :: c :: cs) =
      (fields? n (c :: cs)).map fun r => (.object r.1, r.2) := by
  rw [value?, skipSpace_cons rfl]
  simp only [skipSpace_cons hc.1]
  split
  · rename_i heq
    exact absurd (List.cons.inj heq).1 hc.2.2
  · rfl

theorem value?_numeral (n : Nat) {m : Numeral} (hm : m.IsWritten) {rest : List Char}
    (hr : EndsNumeral rest) : value? (n + 1) (m.print ++ rest) = some (.number m, rest) := by
  obtain ⟨c, cs, hprint, hc⟩ := exists_cons_numeral hm
  obtain ⟨hopens, harray, hobject, hquote, hn, ht, hf⟩ := startsNumeral_ne hc
  have hread := numeral?_print hm hr
  rw [hprint, List.cons_append] at hread ⊢
  rw [value?_scalar n hopens.1 harray hobject]
  unfold scalar?
  split
  · rename_i heq
    exact absurd (List.cons.inj heq).1 hquote
  · rename_i heq
    exact absurd (List.cons.inj heq).1 hn
  · rename_i heq
    exact absurd (List.cons.inj heq).1 ht
  · rename_i heq
    exact absurd (List.cons.inj heq).1 hf
  · rw [hread]
    rfl

theorem value?_string (n : Nat) (s : String) (rest : List Char) :
    value? (n + 1) (printString (some s) ++ rest) = some (.string (some s), rest) := by
  rw [printString, List.append_assoc, List.cons_append,
    value?_scalar n (rfl : isSpace '"' = false) (by decide) (by decide), scalar?]
  simp [stringBody?_print]

/-! ### Values, items and fields -/

theorem separated_cons_cons (a b : List Char) (parts : List (List Char)) :
    separated (a :: b :: parts) = a ++ ',' :: separated (b :: parts) := by
  simp [separated]

@[simp] theorem separated_singleton (a : List Char) : separated [a] = a := by simp [separated]

/-- The first of several texts starts them all. -/
theorem separated_cons (part : List Char) (parts : List (List Char)) :
    ∃ cs, separated (part :: parts) = part ++ cs := by
  cases parts with
  | nil => exact ⟨[], by simp⟩
  | cons next parts => exact ⟨_, separated_cons_cons part next parts⟩

theorem length_print_pos {d : Document} (hd : d.IsWritten) : 0 < d.print.length := by
  obtain ⟨c, cs, hprint, -⟩ := exists_cons_print hd
  rw [hprint, List.length_cons]
  omega

theorem value?_items (n : Nat) {d : Document} (hd : d.IsWritten) (ds : List Document)
    (rest : List Char) :
    value? (n + 1) ('[' :: (separated (printEach (d :: ds)) ++ rest)) =
      (items? n (separated (printEach (d :: ds)) ++ rest)).map fun r => (.array r.1, r.2) := by
  obtain ⟨c, cs, hprint, hc⟩ := exists_cons_print hd
  obtain ⟨more, hmore⟩ := separated_cons d.print (printEach ds)
  rw [printEach, hmore, hprint]
  exact value?_array n _ hc

theorem value?_fields (n : Nat) (k : String) (d : Document)
    (fs : List (Option String × Document)) (rest : List Char) :
    value? (n + 1) ('\x7b' :: (separated (printFields ((some k, d) :: fs)) ++ rest)) =
      (fields? n (separated (printFields ((some k, d) :: fs)) ++ rest)).map
        fun r => (.object r.1, r.2) := by
  obtain ⟨more, hmore⟩ := separated_cons (printString (some k) ++ ':' :: d.print) (printFields fs)
  rw [printFields, hmore]
  exact value?_object n _ (by decide)

/-- A field up to the comma or brace behind it. -/
theorem fields?_of_value {n : Nat} (k : String) {d : Document} {cs rest : List Char}
    (h : value? n (cs ++ rest) = some (d, rest)) :
    fields? (n + 1) (printString (some k) ++ ':' :: (cs ++ rest)) =
      match skipSpace rest with
      | ',' :: more => (fields? n more).map fun r => ((some k, d) :: r.1, r.2)
      | '\x7d' :: more => some ([(some k, d)], more)
      | _ => none := by
  rw [fields?, printString, List.append_assoc, List.cons_append, skipSpace_cons rfl]
  simp only [stringBody?_print, List.singleton_append, Option.bind_eq_bind, Option.bind_some,
    skipSpace_cons (rfl : isSpace ':' = false)]
  rw [h]
  rfl

mutual

/-- **A value is read back** before anything that ends a numeral. -/
theorem value?_print : ∀ (d : Document) (n : Nat) (rest : List Char), d.IsWritten →
    2 * d.print.length ≤ n → EndsNumeral rest → value? n (d.print ++ rest) = some (d, rest)
  | d, 0, _, hd, hn, _ => by
    have := length_print_pos hd
    omega
  | .null, n + 1, rest, _, _, _ => rfl
  | .bool true, n + 1, rest, _, _, _ => rfl
  | .bool false, n + 1, rest, _, _, _ => rfl
  | .number m, n + 1, rest, hm, _, hr => value?_numeral n hm hr
  | .string (some s), n + 1, rest, _, _, _ => value?_string n s rest
  | .array [], n + 1, rest, _, _, _ => rfl
  | .array (d :: ds), n + 1, rest, hd, hn, _ => by
    rw [print, List.length_append, List.length_cons] at hn
    have hitems := items?_print d ds n rest hd (by omega)
    rw [print, List.append_assoc, List.cons_append, value?_items n hd.1, List.singleton_append,
      hitems]
    rfl
  | .object [], n + 1, rest, _, _, _ => rfl
  | .object ((some k, d) :: fs), n + 1, rest, hd, hn, _ => by
    rw [print, List.length_append, List.length_cons] at hn
    have hfields := fields?_print k d fs n rest hd (by omega)
    rw [print, List.append_assoc, List.cons_append, value?_fields, List.singleton_append, hfields]
    rfl

/-- Items are read back up to the bracket behind them. -/
theorem items?_print : ∀ (d : Document) (ds : List Document) (n : Nat) (rest : List Char),
    IsWrittenEach (d :: ds) → 2 * (separated (printEach (d :: ds))).length + 1 ≤ n →
      items? n (separated (printEach (d :: ds)) ++ ']' :: rest) = some (d :: ds, rest)
  | _, _, 0, _, _, hn => by omega
  | d, [], n + 1, rest, hd, hn => by
    simp only [printEach, separated_singleton] at hn ⊢
    have hvalue := value?_print d n (']' :: rest) hd.1 (by omega) (endsNumeral_bracket rest)
    rw [items?, hvalue]
    rfl
  | d, e :: ds, n + 1, rest, hd, hn => by
    simp only [printEach, separated_cons_cons, List.length_append, List.length_cons] at hn
    have hvalue := value?_print d n (',' :: (separated (printEach (e :: ds)) ++ ']' :: rest)) hd.1
      (by omega) (endsNumeral_comma _)
    have hitems := items?_print e ds n rest hd.2 (by rw [printEach]; omega)
    simp only [printEach, separated_cons_cons, List.append_assoc, List.cons_append] at hvalue hitems ⊢
    rw [items?, hvalue]
    simp only [Option.bind_eq_bind, Option.bind_some, skipSpace_cons (rfl : isSpace ',' = false)]
    rw [hitems]
    rfl

/-- Fields are read back up to the brace behind them. -/
theorem fields?_print : ∀ (k : String) (d : Document) (fs : List (Option String × Document))
    (n : Nat) (rest : List Char), IsWrittenFields ((some k, d) :: fs) →
      2 * (separated (printFields ((some k, d) :: fs))).length + 1 ≤ n →
        fields? n (separated (printFields ((some k, d) :: fs)) ++ '\x7d' :: rest) =
          some ((some k, d) :: fs, rest)
  | _, _, _, 0, _, _, hn => by omega
  | k, d, [], n + 1, rest, hf, hn => by
    simp only [printFields, separated_singleton, List.length_append, List.length_cons] at hn ⊢
    have hvalue := value?_print d n ('\x7d' :: rest) hf.2.1 (by omega) (endsNumeral_brace rest)
    rw [List.append_assoc, List.cons_append, fields?_of_value k hvalue]
    rfl
  | k, d, (some l, e) :: fs, n + 1, rest, hf, hn => by
    simp only [printFields, separated_cons_cons, List.length_append, List.length_cons] at hn
    have hvalue := value?_print d n
      (',' :: (separated (printFields ((some l, e) :: fs)) ++ '\x7d' :: rest)) hf.2.1
      (by omega) (endsNumeral_comma _)
    have hfields := fields?_print l e fs n rest hf.2.2
      (by rw [printFields]; omega)
    simp only [printFields, separated_cons_cons, List.append_assoc, List.cons_append]
      at hvalue hfields ⊢
    rw [fields?_of_value k hvalue, skipSpace_cons (rfl : isSpace ',' = false)]
    simp only
    rw [hfields]
    rfl

end

/-- **The text of a document is read back as the document.** -/
theorem ofText?_print {d : Document} (hd : d.IsWritten) :
    ofText? (String.ofList d.print) = some d := by
  have hvalue := value?_print d (2 * d.print.length + 2) [] hd (by omega) endsNumeral_nil
  rw [List.append_nil] at hvalue
  simp only [ofText?, String.toList_ofList, hvalue, Option.bind_eq_bind, Option.bind_some]
  exact if_pos rfl

end ParamSql.Document
