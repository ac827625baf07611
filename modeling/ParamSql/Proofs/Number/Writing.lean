import ParamSql.Proofs.Text.Digits

/-!
# Numerals as they are written

The numerals that a JSON text writes follow its grammar: digits before the point, of which the first
is zero only where it stands alone, and digits behind it.

* `Numeral.IsWritten` — a numeral of the grammar.
* `Interval.holds_search` — the search for the shortest decimal ends with a decimal that rounds to
  the number, so with none but zero for zero.
* `Numeral.placePoint_spec` — where the digits of a number go around its point.
* `Numeral.isWritten_ofInt`, `Numeral.ofBinary_spec` — numerals of numbers follow the grammar.
-/

set_option autoImplicit false

namespace ParamSql

/-! ## Shortest decimals -/

namespace Interval

variable {i : Interval} {tie : TieRule} {k : Int}

theorem numerator_pos (i : Interval) : 0 < i.numerator := Nat.pow_pos (by decide)

theorem denominator_pos (i : Interval) : 0 < i.denominator := Nat.pow_pos (by decide)

/-- Zero rounds to no other number. -/
theorem not_holds_zero (h : 0 < i.low) (k : Int) : i.holds 0 k = false := by
  have hunit : 0 < Nat.pow 10 (-k).toNat * i.numerator :=
    Nat.mul_pos (Nat.pow_pos (by decide)) i.numerator_pos
  have hlow : 0 < i.low * (Nat.pow 10 (-k).toNat * i.numerator) := Nat.mul_pos h hunit
  simp only [holds, Nat.zero_mul, Nat.not_lt_zero, Nat.not_le.mpr hlow, decide_false,
    Bool.false_and, ite_self]

/-- The point of the grid of `10 ^ k` next below a number, or the number itself. -/
def below (i : Interval) (k : Int) : Nat :=
  i.value * (Nat.pow 10 (-k).toNat * i.numerator) / (Nat.pow 10 k.toNat * i.denominator)

/-- A grid gives a point that rounds to the number, if one of the two next to the number does. -/
theorem pick?_cases (i : Interval) (tie : TieRule) (k : Int) :
    (∃ j, i.pick? tie k = some j ∧ i.holds j k = true) ∨
      (i.pick? tie k = none ∧ i.holds (i.below k + 1) k = false) := by
  unfold pick?
  dsimp only
  rw [← below]
  cases hbelow : i.holds (i.below k) k <;> cases habove : i.holds (i.below k + 1) k <;> dsimp only
  case false.false => exact .inr ⟨rfl, rfl⟩
  case true.false => exact .inl ⟨_, rfl, hbelow⟩
  case false.true => exact .inl ⟨_, rfl, habove⟩
  case true.true =>
    left
    split
    · exact ⟨_, rfl, hbelow⟩
    · split
      · exact ⟨_, rfl, habove⟩
      · cases tie with
        | away => exact ⟨_, rfl, habove⟩
        | toEven =>
          refine ⟨_, rfl, ?_⟩
          split
          · exact hbelow
          · exact habove

theorem holds_of_pick? {j : Nat} (h : i.pick? tie k = some j) : i.holds j k = true := by
  rcases i.pick?_cases tie k with ⟨j', hpick, hholds⟩ | ⟨hpick, -⟩
  · rw [hpick] at h
    exact Option.some.inj h ▸ hholds
  · rw [hpick] at h
    cases h

/-- A grid that is finer than the interval has a point in it: the one above the number. -/
theorem exists_pick? (hlow : i.low < i.value) (hhigh : i.value + 1 < i.high) (hk : k ≤ 0)
    (hscale : k ≤ i.scale) : ∃ j, i.pick? tie k = some j ∧ i.holds j k = true := by
  have hten : Nat.pow 10 k.toNat = 1 := by rw [Int.toNat_of_nonpos hk]
  have habove : i.holds (i.below k + 1) k = true := by
    rw [holds, below, hten, Nat.one_mul, Nat.mul_one]
    have hfine : i.denominator ≤ Nat.pow 10 (-k).toNat * i.numerator :=
      calc i.denominator ≤ Nat.pow 10 (-i.scale).toNat := Nat.pow_le_pow_left (by decide) _
        _ ≤ Nat.pow 10 (-k).toNat := Nat.pow_le_pow_right (by decide) (by omega)
        _ ≤ Nat.pow 10 (-k).toNat * i.numerator := Nat.le_mul_of_pos_right _ i.numerator_pos
    have hden := i.denominator_pos
    generalize Nat.pow 10 (-k).toNat * i.numerator = unit at hfine ⊢
    generalize i.denominator = step at hfine hden ⊢
    have hleft : i.low * unit < (i.value * unit / step + 1) * step :=
      calc i.low * unit ≤ i.value * unit := Nat.mul_le_mul_right _ hlow.le
        _ < (i.value * unit / step + 1) * step :=
          Nat.lt_mul_of_div_lt (Nat.lt_succ_self _) hden
    have hright : (i.value * unit / step + 1) * step < i.high * unit :=
      calc (i.value * unit / step + 1) * step = i.value * unit / step * step + step :=
            Nat.succ_mul _ _
        _ ≤ i.value * unit + unit := Nat.add_le_add (Nat.div_mul_le_self _ _) hfine
        _ = (i.value + 1) * unit := (Nat.succ_mul _ _).symm
        _ < i.high * unit := Nat.mul_lt_mul_of_pos_right hhigh (hden.trans_le hfine)
    simp only [hleft, hleft.le, hright, hright.le, decide_true, Bool.and_self, ite_self]
  rcases i.pick?_cases tie k with hpick | ⟨-, hnone⟩
  · exact hpick
  · rw [habove] at hnone
    cases hnone

/-- **The search ends with a decimal that rounds to the number** if the last grid has one. -/
theorem holds_search (tie : TieRule) :
    ∀ (n : Nat) (k : Int), (∃ j, i.pick? tie (k - n) = some j) →
      i.holds (i.search tie (n + 1) k).1 (i.search tie (n + 1) k).2 = true
  | n, k, ⟨last, hlast⟩ => by
    rw [search]
    cases hpick : i.pick? tie k with
    | some j => exact holds_of_pick? hpick
    | none =>
      cases n with
      | zero =>
        rw [Int.natCast_zero, Int.sub_zero, hpick] at hlast
        cases hlast
      | succ n =>
        have hnext : k - 1 - (n : Int) = k - (n + 1 : Nat) := by omega
        exact holds_search tie n (k - 1) ⟨last, hnext ▸ hlast⟩

end Interval

/-- **The shortest decimal is zero only for zero**, which has no power of ten. -/
theorem Binary.power_eq_zero_of_shortest {f : BinaryFormat} (tie : TieRule) (x : Binary f)
    (h : (x.shortest tie).1 = 0) : (x.shortest tie).2 = 0 := by
  unfold shortest at h ⊢
  split
  · rfl
  · rename_i hm
    have hlow : 0 < x.interval.low ∧ x.interval.low < x.interval.value := by
      simp only [interval]
      split <;> omega
    have hscale : x.interval.scale = x.power - 2 := rfl
    obtain ⟨last, hlast, -⟩ : ∃ j, x.interval.pick? tie
        (x.startPower - (x.startPower - min (x.power - 2) 0).toNat) = some j ∧ _ :=
      Interval.exists_pick? hlow.2 (Nat.lt_succ_self _) (by omega) (by omega)
    have hholds := Interval.holds_search tie _ x.startPower ⟨last, hlast⟩
    rw [if_neg hm] at h
    rw [show (x.interval.search tie _ x.startPower).1 = 0 from h,
      Interval.not_holds_zero hlow.1] at hholds
    cases hholds

/-! ## Numerals -/

namespace Numeral

/-- A numeral that follows the grammar of JSON. -/
structure IsWritten (n : Numeral) : Prop where
  whole : AllDigits n.whole
  whole_ne_nil : n.whole ≠ []
  leading_zero : n.whole.head? = some '0' → n.whole.length = 1
  fraction : AllDigits n.fraction

/-- The digits of a number, with zero alone as a single digit. -/
theorem length_digitsOf_of_zero {n : Nat} (h : (digitsOf n).head? = some '0') :
    (digitsOf n).length = 1 := by
  by_cases hn : n = 0
  · subst hn
    rfl
  · exact absurd h (digitsOf_head_ne_zero hn)

theorem isWritten_ofInt (n : Int) : (ofInt n).IsWritten :=
  ⟨allDigits_digitsOf _, digitsOf_ne_nil _, length_digitsOf_of_zero, nofun⟩

/-- **Placing a point keeps the digits**: there is one digit before it at least, as many digits
behind it as places, and together they stand for the number, scaled up where the point moves out of
them. -/
theorem placePoint_spec {digits : List Char} (hdigits : AllDigits digits) (hne : digits ≠ [])
    (k : Int) :
    let p := placePoint digits k
    AllDigits p.1 ∧ AllDigits p.2 ∧ p.1 ≠ [] ∧ p.2.length = (-k).toNat ∧
      readDigits (p.1 ++ p.2) = 10 ^ k.toNat * readDigits digits := by
  intro p
  simp only [p, placePoint]
  split
  · rename_i hk
    refine ⟨allDigits_append.mpr ⟨hdigits, allDigits_zeros _⟩, nofun, by simp [hne], ?_, ?_⟩
    · rw [List.length_nil]
      omega
    · rw [List.append_nil, readDigits_append, readDigits_zeros, List.length_replicate, Nat.add_zero]
  · rename_i hk
    have hscale : k.toNat = 0 := by omega
    rw [hscale, Nat.pow_zero, Nat.one_mul]
    split
    · rename_i hplaces
      rw [List.splitAt_eq]
      refine ⟨fun c hc => hdigits c (List.mem_of_mem_take hc),
        fun c hc => hdigits c (List.mem_of_mem_drop hc), ?_, ?_, ?_⟩
      · refine List.ne_nil_of_length_pos ?_
        rw [List.length_take]
        omega
      · rw [List.length_drop]
        omega
      · rw [List.take_append_drop]
    · rename_i hplaces
      refine ⟨by simp [AllDigits], allDigits_append.mpr ⟨allDigits_zeros _, hdigits⟩, by simp, ?_, ?_⟩
      · rw [List.length_append, List.length_replicate]
        omega
      · rw [← List.append_assoc, readDigits_append, List.singleton_append, ← List.replicate_succ,
          readDigits_zeros, Nat.mul_zero, Nat.zero_add]

/-- Before a point stand the first digits of the number, or a zero alone. -/
theorem placePoint_head? {digits : List Char} (hne : digits ≠ []) (k : Int) :
    (placePoint digits k).1.head? = digits.head? ∨ (placePoint digits k).1 = ['0'] := by
  unfold placePoint
  split
  · refine .inl ?_
    rw [List.head?_append, Option.or_of_isSome (List.isSome_head?.mpr hne)]
  · dsimp only
    split
    · refine .inl ?_
      rw [List.splitAt_eq, List.head?_take, if_neg (by omega)]
    · exact .inr rfl

/-- The digits before a point start with a zero only where that stands alone. -/
theorem placePoint_leading_zero {d : Nat} {k : Int} (hd : d = 0 → k = 0)
    (h : (placePoint (digitsOf d) k).1.head? = some '0') :
    (placePoint (digitsOf d) k).1.length = 1 := by
  by_cases hzero : d = 0
  · rw [hd hzero, hzero]
    rfl
  · rcases placePoint_head? (digitsOf_ne_nil d) k with hhead | halone
    · exact absurd (hhead ▸ h) (digitsOf_head_ne_zero hzero)
    · rw [halone]
      rfl

/-- **The numeral of a binary number follows the grammar**, and is not written as an integer. -/
theorem ofBinary_spec {f : BinaryFormat} (style : Style) (x : Binary f) :
    (ofBinary style x).IsWritten ∧ (ofBinary style x).isInteger = false := by
  rcases hshortest : x.shortest style.tie with ⟨d, k⟩
  have hzero : d = 0 → k = 0 := by
    have hpower := Binary.power_eq_zero_of_shortest style.tie x
    rwa [hshortest] at hpower
  simp only [ofBinary, hshortest]
  split
  · obtain ⟨hwhole, hfraction, hne, -⟩ := placePoint_spec (allDigits_digitsOf d) (digitsOf_ne_nil d) k
    refine ⟨⟨hwhole, hne, placePoint_leading_zero hzero, ?_⟩, ?_⟩
    · split
      · exact allDigits_zeros 1
      · exact hfraction
    · split
      · rfl
      · rename_i hsome
        simpa [isInteger] using hsome
  · refine ⟨⟨fun c hc => allDigits_digitsOf d c (List.mem_of_mem_take hc), ?_, ?_,
      fun c hc => allDigits_digitsOf d c (List.mem_of_mem_drop hc)⟩, ?_⟩
    · simp [digitsOf_ne_nil]
    · have hpos : 0 < (digitsOf d).length := List.length_pos_iff.mpr (digitsOf_ne_nil d)
      intro _
      rw [List.length_take]
      omega
    · simp [isInteger]

/-- A numeral that is not written as an integer is not read as one. -/
theorem toInt?_eq_none {n : Numeral} (h : n.isInteger = false) : n.toInt? = none := by
  rw [toInt?, h]
  rfl

end Numeral

end ParamSql
