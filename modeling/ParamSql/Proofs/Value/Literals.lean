import ParamSql.Proofs.Number.Writing
import ParamSql.Proofs.Text.Delimiting
import ParamSql.Proofs.Time.Reading
import ParamSql.Proofs.Uuid
import ParamSql.Variable

/-!
# String literals in the text of a value

A value in SQL has string literals among other text. Whatever quotes the texts in it hold, a reader
that knows nothing but quotes finds these literals, with these texts, and no other.

* `Text.literals?_inside` — the scan for literals reads one of them as `scanQuoted` does.
* `Text.HoldsLiterals` — the literals of a text, whatever stands behind it but a quote; literals and
  text without quotes have it (`HoldsLiterals.literal`, `HoldsLiterals.bare`) and it goes on through
  `HoldsLiterals.append`.
* `Value.quotedTexts` — the texts that a value puts between quotes.
* `Value.literals_of_inline` — these are the literals of the value, wherever it stands.
-/

set_option autoImplicit false

namespace ParamSql

namespace Text

/-! ## Scanning for literals -/

/-- **Inside a literal, the scan reads on to the quote that closes it**, and behind that it goes on
outside. -/
theorem literals?_inside : ∀ read cs : List Char,
    literals? (some read) cs =
      (scanQuoted '\'' cs).bind fun p => (literals? none p.2).map ((read ++ p.1) :: ·)
  -- both scans look at two characters at a time, so a doubled quote takes two of them off
  | _, [] => rfl
  | read, [c] => by by_cases hc : c = '\'' <;> simp [literals?, scanQuoted, hc]
  | read, c :: d :: cs => by
    rw [literals?, scanQuoted]
    by_cases hc : c = '\''
    · by_cases hd : d = '\''
      · rw [if_pos hc, if_pos hd, if_pos hc, if_pos hd, literals?_inside (read ++ ['\'']) cs]
        cases scanQuoted '\'' cs <;> simp
      · rw [if_pos hc, if_neg hd, if_pos hc, if_neg hd]
        simp
    · rw [if_neg hc, if_neg hc, literals?_inside (read ++ [c]) (d :: cs)]
      cases scanQuoted '\'' (d :: cs) <;> simp

/-- Text without quotes is passed over. -/
theorem literals?_append_of_notMem {cs : List Char} (h : '\'' ∉ cs) (rest : List Char) :
    literals? none (cs ++ rest) = literals? none rest := by
  induction cs with
  | nil => rfl
  | cons c cs ih =>
    rw [List.mem_cons, not_or] at h
    rw [List.cons_append, literals?, if_neg (Ne.symm h.1)]
    exact ih h.2

/-- A text without quotes stands in a literal as it is. -/
theorem literalBody_of_notMem {cs : List Char} (h : '\'' ∉ cs) : literalBody cs = cs := by
  induction cs with
  | nil => rfl
  | cons c cs ih =>
    rw [List.mem_cons, not_or] at h
    rw [literalBody, List.flatMap_cons, literalChar, if_neg (Ne.symm h.1)]
    exact congrArg (c :: ·) (ih h.2)

/-- The literals of a text are `contents`, if it stands before anything but a quote. -/
def HoldsLiterals (cs : List Char) (contents : List (List Char)) : Prop :=
  ∀ rest, rest.head? ≠ some '\'' →
    literals? none (cs ++ rest) = (literals? none rest).map (contents ++ ·)

namespace HoldsLiterals

variable {as bs cs : List Char} {xs ys : List (List Char)}

/-- A text without quotes has no literals. -/
theorem bare (h : '\'' ∉ cs) : HoldsLiterals cs [] := by
  intro rest _
  rw [literals?_append_of_notMem h]
  simp

/-- **A string literal holds the text that it was made of.** -/
theorem literal (cs : List Char) : HoldsLiterals (Text.literal cs) [cs] := by
  intro rest hrest
  have hshape : Text.literal cs ++ rest = '\'' :: (cs.flatMap (doubled '\'') ++ '\'' :: rest) := by
    show '\'' :: (cs.flatMap (doubled '\'')) ++ ['\''] ++ rest = _
    simp
  rw [hshape, literals?, if_pos rfl, literals?_inside, scanQuoted_doubled '\'' cs hrest]
  rfl

/-- So does a text without quotes between two of them. -/
theorem enclosed (h : '\'' ∉ cs) : HoldsLiterals (Text.enclosed cs) [cs] := by
  have hliteral := literal cs
  rwa [Text.literal, literalBody_of_notMem h] at hliteral

/-- The literals of two texts, the second not starting with a quote, are those of the first and then
those of the second. -/
theorem append (ha : HoldsLiterals as xs) (hb : HoldsLiterals bs ys)
    (hhead : bs.head? ≠ some '\'') : HoldsLiterals (as ++ bs) (xs ++ ys) := by
  intro rest hrest
  have hnext : (bs ++ rest).head? ≠ some '\'' := by
    cases bs with
    | nil => exact hrest
    | cons b bs => exact hhead
  rw [List.append_assoc, ha _ hnext, hb _ hrest, Option.map_map]
  congr 1
  funext zs
  simp

/-- A text without quotes may stand before any other. -/
theorem bare_append (h : '\'' ∉ as) (hb : HoldsLiterals bs ys) : HoldsLiterals (as ++ bs) ys := by
  intro rest hrest
  rw [List.append_assoc, literals?_append_of_notMem h]
  exact hb rest hrest

/-- A text without quotes may stand behind any other. -/
theorem append_bare (ha : HoldsLiterals as xs) (h : '\'' ∉ bs) : HoldsLiterals (as ++ bs) xs := by
  have happend := ha.append (bare h) fun hhead => h (List.mem_of_head? hhead)
  rwa [List.append_nil] at happend

/-- A text on its own has the literals that it has before another. -/
theorem alone (h : HoldsLiterals cs xs) : literals? none cs = some xs := by
  have hnil := h [] (by simp)
  simpa [literals?] using hnil

end HoldsLiterals

end Text

open Text

/-! ## Texts without quotes -/

theorem quote_notMem_of_allDigits {cs : List Char} (h : AllDigits cs) : '\'' ∉ cs := by
  intro hmem
  cases h _ hmem

/-- A number has a sign, digits and a point, and no quote. -/
theorem quote_notMem_number (negative : Bool) {whole fraction : List Char} (hwhole : AllDigits whole)
    (hfraction : AllDigits fraction) :
    '\'' ∉ (if negative then ['-'] else []) ++ whole ++
      (if fraction.isEmpty then [] else '.' :: fraction) := by
  have hsign : '\'' ∉ (if negative then ['-'] else []) := by cases negative <;> decide
  have hpoint : '\'' ∉ (if fraction.isEmpty then [] else '.' :: fraction) := by
    split
    · exact List.not_mem_nil
    · simp [quote_notMem_of_allDigits hfraction]
  rw [List.mem_append, List.mem_append, not_or, not_or]
  exact ⟨⟨hsign, quote_notMem_of_allDigits hwhole⟩, hpoint⟩

theorem Binary.quote_notMem_positional {f : BinaryFormat} (x : Binary f) : '\'' ∉ x.positional := by
  unfold positional
  split
  · decide
  · dsimp only
    split
    · cases x.isNegative <;> decide
    · obtain ⟨hwhole, hfraction, -⟩ := Numeral.placePoint_spec
        (allDigits_digitsOf (x.shortest .away).1) (digitsOf_ne_nil _) (x.shortest .away).2
      exact quote_notMem_number x.isNegative hwhole hfraction

theorem Decimal.quote_notMem_print (d : Decimal) : '\'' ∉ d.print := by
  obtain ⟨hwhole, hfraction, -⟩ := Numeral.placePoint_spec
    (allDigits_digitsOf d.magnitude.toNat) (digitsOf_ne_nil _) (-((d.scale : Nat) : Int))
  exact quote_notMem_number d.isNegative hwhole hfraction

theorem Uuid.quote_notMem_print (u : Uuid) : '\'' ∉ u.print := by
  have hdigits := notMem_lowerHex (by decide : ∀ d < 16, lowerHexDigit d ≠ '\'')
  simp [print, hdigits]

theorem Timestamp.quote_notMem_print (t : Timestamp) : '\'' ∉ t.print offsetZone := by
  have hpadded : ∀ width n, '\'' ∉ padded width n :=
    fun width n => quote_notMem_of_allDigits (allDigits_padded width n)
  have hyear : ∀ y, '\'' ∉ printYear y := by
    intro y
    unfold printYear
    split
    · exact hpadded _ _
    · split <;> simp [hpadded]
  have hfraction : ∀ nanos, '\'' ∉ printFraction nanos := by
    intro nanos
    unfold printFraction
    repeat' split
    all_goals simp [hpadded]
  simp [print, hpadded, hyear, hfraction, offsetZone]

namespace Value

theorem quote_notMem_intDigits (n : Int) : '\'' ∉ intDigits n := by
  have hnumber := quote_notMem_number (n < 0) (allDigits_digitsOf n.natAbs) (allDigits_zeros 0)
  simpa [intDigits, Numeral.print, Numeral.ofInt] using hnumber

theorem quote_notMem_hexBytes (bs : List UInt8) : '\'' ∉ hexBytes bs := by
  have hdigit : ∀ d < 16, '\'' ≠ upperHexDigit d := by decide
  have hmod : ∀ n, '\'' ≠ upperHexDigit (n % 16) := fun n => hdigit _ (Nat.mod_lt _ (by decide))
  simp [hexBytes, upperHex, hmod]

/-! ## Values -/

mutual

/-- The texts that a value puts between quotes, in order. -/
def quotedTexts : Value → List (List Char)
  | .text s => [s.toList]
  | .bytes bs => [hexBytes bs]
  | .json j => [j.text]
  | .array items => quotedTextsEach items
  | .uuid u => [u.print]
  | .timestamp t => [t.print Timestamp.offsetZone]
  | .null | .bool _ | .int32 _ | .int64 _ | .float32 _ | .float64 _ | .decimal _ => []

/-- The texts that values put between quotes, in order. -/
def quotedTextsEach : List Value → List (List Char)
  | [] => []
  | v :: vs => quotedTexts v ++ quotedTextsEach vs

end

theorem listed_cons_cons (part next : List Char) (parts : List (List Char)) :
    listed (part :: next :: parts) = part ++ ([',', ' '] ++ listed (next :: parts)) := by
  simp [listed]

mutual

/-- **A value has the literals of the texts that it puts between quotes.** -/
theorem holdsLiterals_inlineChars : ∀ v : Value, HoldsLiterals v.inlineChars v.quotedTexts
  | .null => .bare (by decide)
  | .bool b => by cases b <;> exact .bare (by decide)
  | .int32 n => .bare (quote_notMem_intDigits n.toInt)
  | .int64 n => .bare (quote_notMem_intDigits n.toInt)
  | .float32 x => .bare x.quote_notMem_positional
  | .float64 x => .bare x.quote_notMem_positional
  | .decimal d => .bare d.quote_notMem_print
  | .text s => .literal s.toList
  | .bytes bs => by
    show HoldsLiterals (['X'] ++ enclosed (hexBytes bs)) _
    exact .bare_append (by decide) (.enclosed (quote_notMem_hexBytes bs))
  | .json j => .literal j.text
  | .uuid u => .enclosed u.quote_notMem_print
  | .timestamp t => .enclosed t.quote_notMem_print
  | .array items => .append_bare
      (.bare_append (by decide) (holdsLiterals_listed items)) (by decide)

/-- Values with commas between have the literals of all of them. -/
theorem holdsLiterals_listed : ∀ vs : List Value,
    HoldsLiterals (listed (inlineEach vs)) (quotedTextsEach vs)
  | [] => .bare (by decide)
  -- the last value stands before whatever stands behind the list, any other one before a comma
  | [v] => by
    have hv := holdsLiterals_inlineChars v
    simpa [inlineEach, listed, quotedTextsEach] using hv
  | v :: w :: vs => by
    have hrest := holdsLiterals_listed (w :: vs)
    rw [inlineEach, inlineEach, listed_cons_cons, quotedTextsEach]
    refine (holdsLiterals_inlineChars v).append (.bare_append (by decide) hrest) ?_
    simp

end

end Value

theorem ValueType.quote_notMem_sql (t : ValueType) : '\'' ∉ t.sql.toList := by
  cases t <;> decide

/-- A parameter in a signature has the literals of its default, if there is no quote in its name. -/
theorem Parameter.holdsLiterals_display {p : Parameter} {v : Value} (hname : '\'' ∉ p.name.toList)
    (hv : p.default = some v) : HoldsLiterals p.display.toList v.quotedTexts := by
  have hbefore : ∃ before, '\'' ∉ before ∧ p.display.toList = before ++ v.inlineChars := by
    unfold display
    rw [hv]
    cases p.typeHint with
    | none => exact ⟨p.name.toList ++ " = ".toList, by simp [hname], by simp [Value.inline]⟩
    | some t =>
      exact ⟨p.name.toList ++ ": ".toList ++ t.sql.toList ++ " = ".toList,
        by simp [hname, t.quote_notMem_sql], by simp [Value.inline]⟩
  obtain ⟨before, hbare, hdisplay⟩ := hbefore
  rw [hdisplay]
  exact .bare_append hbare v.holdsLiterals_inlineChars

/-- **A value in SQL never breaks out of its quotes.** Read as SQL reads string literals, its text ends
outside of them, and what they hold is exactly the texts that the value puts between quotes. So it is
wherever the value stands outside of a literal and before no quote, and in the signature of a
parameter. -/
theorem Value.literals_of_inline (v : Value) :
    literals? none v.inline.toList = some v.quotedTexts ∧
    (∀ before after : List Char, '\'' ∉ before → after.head? ≠ some '\'' →
      literals? none (before ++ v.inline.toList ++ after) =
        (literals? none after).map (v.quotedTexts ++ ·)) ∧
    ∀ p : Parameter, '\'' ∉ p.name.toList → p.default = some v →
      literals? none p.display.toList = some v.quotedTexts := by
  have hinline : HoldsLiterals v.inline.toList v.quotedTexts := by
    rw [inline, String.toList_ofList]
    exact v.holdsLiterals_inlineChars
  refine ⟨hinline.alone, ?_, ?_⟩
  · intro before after hbefore hafter
    exact hinline.bare_append hbefore after hafter
  · intro p hname hv
    exact (Parameter.holdsLiterals_display hname hv).alone

/-- Quotes at either end of a text and in a run, a document that is a quote, bytes, and another array
inside of the array. -/
def quotesEverywhere : Value :=
  .array [.text "'it''s'", .array [.json (.string "'"), .int32 5, .array []], .bytes [0x4f, 0x27], .null]

theorem Value.literals_quotesEverywhere :
    let p : Parameter := ⟨"tags", some .array, some quotesEverywhere⟩
    ('\'' ∉ "SELECT ".toList ∧ [')'].head? ≠ some '\'' ∧ '\'' ∉ p.name.toList ∧
        p.default = some quotesEverywhere) ∧
      quotesEverywhere.inline =
        "ARRAY['''it''''s''', ARRAY['\"''\"', 5, ARRAY[]], X'4F27', NULL]" ∧
      literals? none ("SELECT ".toList ++ quotesEverywhere.inline.toList ++ [')']) =
        some ["'it''s'".toList, "\"'\"".toList, "4F27".toList] ∧
      literals? none p.display.toList =
        some ["'it''s'".toList, "\"'\"".toList, "4F27".toList] := by
  intro p
  have hbefore : '\'' ∉ "SELECT ".toList := by decide
  have hafter : [')'].head? ≠ some '\'' := by decide
  have hname : '\'' ∉ p.name.toList := by decide
  obtain ⟨-, hplace, hsignature⟩ := literals_of_inline quotesEverywhere
  refine ⟨⟨hbefore, hafter, hname, rfl⟩, by decide +kernel, ?_, ?_⟩
  · rw [hplace _ _ hbefore hafter]
    decide +kernel
  · rw [hsignature p hname rfl]
    decide +kernel

end ParamSql
