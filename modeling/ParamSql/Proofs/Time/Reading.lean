import ParamSql.Proofs.Text.Digits
import ParamSql.Proofs.Time.Calendar
import ParamSql.Time.Reader

/-!
# Points in time read back

* `Timestamp.readDigits_padded` — a number with zeros in front is read as the number.
* `Timestamp.year_print`, `part_padded`, `fraction_print` — the parts of a timestamp, before what
  follows them.
* `Timestamp.IsLegible` — the points in time that dates reach, leap seconds only at the end of a
  minute.
* `Timestamp.ofText?_print` — the text of a timestamp is read as the timestamp.
-/

set_option autoImplicit false

namespace ParamSql.Timestamp

open ParamSql.Text

/-! ## Numbers -/

theorem allDigits_padded (width n : Nat) : AllDigits (padded width n) :=
  allDigits_append.mpr ⟨allDigits_zeros _, allDigits_digitsOf n⟩

theorem readDigits_padded (width n : Nat) : Numeral.readDigits (padded width n) = n := by
  rw [padded, Numeral.readDigits_append, Numeral.readDigits_zeros, Nat.mul_zero, Nat.zero_add,
    Numeral.readDigits_digitsOf]

theorem le_length_padded (width n : Nat) : width ≤ (padded width n).length := by
  rw [padded, List.length_append, List.length_replicate]
  omega

/-- A number that is small enough is padded to the width. -/
theorem length_padded {width n : Nat} (hwidth : 0 < width) (h : n < 10 ^ width) :
    (padded width n).length = width := by
  have hdigits : (digitsOf n).length ≤ width :=
    (Nat.length_toDigits_le_iff (by decide) hwidth).mpr h
  rw [padded, List.length_append, List.length_replicate]
  omega

theorem exists_cons_padded {width : Nat} (hwidth : 0 < width) (n : Nat) :
    ∃ c cs, padded width n = c :: cs ∧ c.isDigit = true := by
  have hne : padded width n ≠ [] :=
    List.ne_nil_of_length_pos (hwidth.trans_le (le_length_padded width n))
  obtain ⟨c, cs, hcons⟩ := List.exists_cons_of_ne_nil hne
  exact ⟨c, cs, hcons, allDigits_padded width n c (by simp [hcons])⟩

theorem trimStart_cons {c : Char} (h : isBlank c = false) (cs : List Char) :
    trimStart (c :: cs) = c :: cs := by
  rw [trimStart, List.dropWhile_cons_of_neg (by simp [h])]

theorem noDigitFirst_take {cs : List Char} (h : NoDigitFirst cs) (n : Nat) :
    NoDigitFirst (cs.take n) := by
  cases n with
  | zero => exact noDigitFirst_nil
  | succ n => cases cs <;> exact h

/-- Digits that are few enough are read as a number before anything else. -/
theorem number_digits {most : Nat} {digits rest : List Char} (hd : AllDigits digits)
    (hne : digits ≠ []) (hmost : digits.length ≤ most) (hr : NoDigitFirst rest) :
    number most (digits ++ rest) = some (Numeral.readDigits digits, rest) := by
  have htake : ((digits ++ rest).take most).takeWhile Char.isDigit = digits := by
    rw [List.take_append, List.take_of_length_le hmost]
    exact takeWhile_digits hd (noDigitFirst_take hr _)
  simp [number, htake, hne]

/-! ## Parts -/

theorem separator_self {c : Char} (h : isBlank c = false) (rest : List Char) :
    separator c (c :: rest) = some rest := by
  simp [separator, trimStart_cons h]

/-- **A padded number of two digits is read as it was written.** -/
theorem part_padded {least most n : Nat} (hleast : least ≤ n) (hmost : n ≤ most) (h : n < 100)
    {rest : List Char} (hr : NoDigitFirst rest) :
    part least most (padded 2 n ++ rest) = some (n, rest) := by
  obtain ⟨c, cs, hcons, hc⟩ := exists_cons_padded (by decide : 0 < 2) n
  have htrim : trimStart (padded 2 n ++ rest) = padded 2 n ++ rest := by
    rw [hcons, List.cons_append, trimStart_cons (isBlank_of_isDigit hc)]
  have hnumber := number_digits (allDigits_padded 2 n) (by simp [hcons])
    (length_padded (by decide) h).le hr
  rw [part, htrim, hnumber]
  simp [readDigits_padded, hleast, hmost]

/-- A padded number after a sign is read whole, however long it is. -/
theorem number_padded (n : Nat) {rest : List Char} (hr : NoDigitFirst rest) :
    number (padded 4 n ++ rest).length (padded 4 n ++ rest) = some (n, rest) := by
  obtain ⟨c, cs, hcons, -⟩ := exists_cons_padded (by decide : 0 < 4) n
  rw [number_digits (allDigits_padded 4 n) (by simp [hcons]) (by simp) hr, readDigits_padded]

/-- **A year is read as it was written**, with a sign where it has one. -/
theorem year_print (y : Int) {rest : List Char} (hr : NoDigitFirst rest) :
    year (printYear y ++ rest) = some (y, rest) := by
  unfold printYear
  split
  · rename_i hy
    rw [Bool.and_eq_true, decide_eq_true_eq, decide_eq_true_eq] at hy
    obtain ⟨c, cs, hcons, hc⟩ := exists_cons_padded (by decide : 0 < 4) y.toNat
    have hnumber := number_digits (allDigits_padded 4 y.toNat) (by simp [hcons])
      (length_padded (by decide) (by omega)).le hr
    rw [readDigits_padded, hcons, List.cons_append] at hnumber
    have hsigns : c ≠ '-' ∧ c ≠ '+' := by
      constructor <;> (rintro rfl; cases hc)
    have hcast : (y.toNat : Int) = y := by omega
    simp [year, hcons, trimStart_cons (isBlank_of_isDigit hc), hsigns, hnumber, hcast]
  · rename_i hy
    have hnumber := number_padded y.natAbs hr
    by_cases hneg : y < 0
    · have hcast : -(y.natAbs : Int) = y := by omega
      simp only [if_pos hneg, List.cons_append, year, trimStart_cons (rfl : isBlank '-' = false)]
      simp only [hnumber, Option.map_some, hcast]
    · have hcast : (y.natAbs : Int) = y := by omega
      simp only [if_neg hneg, List.cons_append, year, trimStart_cons (rfl : isBlank '+' = false)]
      simp only [hnumber, Option.map_some, hcast]

/-- Digits behind a point, up to nine of them, count their places. -/
theorem fraction_padded {width n : Nat} (hwidth : 0 < width) (hmost : width ≤ 9)
    (h : n < 10 ^ width) {rest : List Char} (hr : NoDigitFirst rest) :
    fraction ('.' :: padded width n ++ rest) = some (n * 10 ^ (9 - width), rest) := by
  obtain ⟨c, cs, hcons, -⟩ := exists_cons_padded hwidth n
  have hlength := length_padded hwidth h
  have htake : ((padded width n ++ rest).take 9).takeWhile Char.isDigit = padded width n := by
    rw [List.take_append, List.take_of_length_le (hlength.trans_le hmost)]
    exact takeWhile_digits (allDigits_padded width n) (noDigitFirst_take hr _)
  have hne : (padded width n).isEmpty = false := by simp [hcons]
  simp only [List.cons_append, fraction, htake, hne, readDigits_padded, hlength,
    dropWhile_digits (allDigits_padded width n) hr]
  rfl

/-- **A fraction of a second is read as it was written.** -/
theorem fraction_print {nanos : Nat} (h : nanos < 1000000000) {rest : List Char}
    (hr : NoDigitFirst rest) (hpoint : rest.head? ≠ some '.') :
    fraction (printFraction nanos ++ rest) = some (nanos, rest) := by
  unfold printFraction
  split
  · rename_i hzero
    rw [beq_iff_eq] at hzero
    subst hzero
    cases rest with
    | nil => rfl
    | cons c rest =>
      have hc : c ≠ '.' := fun he => hpoint (congrArg some he)
      simp [fraction, hc]
  · split
    · rename_i hthousandth
      rw [beq_iff_eq] at hthousandth
      rw [fraction_padded (by decide) (by decide) (by omega) hr]
      congr 2
      omega
    · split
      · rename_i hmillionth
        rw [beq_iff_eq] at hmillionth
        rw [fraction_padded (by decide) (by decide) (by omega) hr]
        congr 2
        omega
      · rw [fraction_padded (by decide) (by decide) (by omega) hr]
        congr 2
        omega

/-! ## Timestamps -/

/-- A point in time that dates reach. Only the last second of a minute can be prolonged. -/
structure IsLegible (t : Timestamp) : Prop where
  least : Date.minYear ≤ (Date.ofDays (t.seconds / secondsPerDay)).year
  most : (Date.ofDays (t.seconds / secondsPerDay)).year ≤ Date.maxYear
  nanos : t.nanos < 1000000000 ∨ t.nanos < 2000000000 ∧ t.seconds % 60 = 59

theorem noDigitFirst_printFraction (nanos : Nat) {rest : List Char} (hr : NoDigitFirst rest) :
    NoDigitFirst (printFraction nanos ++ rest) := by
  unfold printFraction
  split
  · exact hr
  · split
    · exact noDigitFirst_cons rfl
    · split <;> exact noDigitFirst_cons rfl

/-- A date that exists has its month and its day in bounds. -/
theorem bounds_of_isValid {d : Date} (h : d.isValid = true) :
    1 ≤ d.month ∧ d.month ≤ 12 ∧ 1 ≤ d.day ∧ d.day ≤ 31 := by
  have hdays : Date.daysInMonth d.year d.month ≤ 31 := by
    unfold Date.daysInMonth
    split
    · split <;> decide
    · split <;> decide
  simp only [Date.isValid, Bool.and_eq_true, decide_eq_true_eq] at h
  omega

theorem bind_of_eq_some {α β : Type} {x : Option α} {a : α} {f : α → Option β} (h : x = some a) :
    (x >>= f) = f a := by
  rw [h]
  rfl

/-- The parts of a timestamp, each written with all its digits, are read one after the other. -/
theorem ofText?_parts (y : Int) {month day hour minute second nanos : Nat}
    (hmonth : 1 ≤ month ∧ month ≤ 12) (hday : 1 ≤ day ∧ day ≤ 31) (hhour : hour ≤ 23)
    (hminute : minute ≤ 59) (hsecond : second ≤ 60) (hnanos : nanos < 1000000000) :
    ofText? (printYear y ++ '-' :: padded 2 month ++ '-' :: padded 2 day ++ 'T' :: padded 2 hour
        ++ ':' :: padded 2 minute ++ ':' :: padded 2 second ++ printFraction nanos ++ letterZone) =
      let date : Date := ⟨y, month, day⟩
      let seconds := date.toDays * secondsPerDay
        + (3600 * hour + 60 * minute + min second 59 : Nat)
      if date.isValid && (Date.ofDays (seconds / secondsPerDay)).isValid then
        some ⟨seconds, if second = 60 then nanos + 1000000000 else nanos⟩
      else none := by
  have hdash : ∀ rest, separator '-' ('-' :: rest) = some rest := separator_self rfl
  have hcolon : ∀ rest, separator ':' (':' :: rest) = some rest := separator_self rfl
  have hletter : NoDigitFirst letterZone := noDigitFirst_cons rfl
  have hyear : ∀ rest, year (printYear y ++ '-' :: rest) = some (y, '-' :: rest) :=
    fun rest => year_print y (noDigitFirst_cons rfl)
  have hmonth' : ∀ rest, part 1 12 (padded 2 month ++ '-' :: rest) = some (month, '-' :: rest) :=
    fun rest => part_padded hmonth.1 hmonth.2 (by omega) (noDigitFirst_cons rfl)
  have hday' : ∀ rest, part 1 31 (padded 2 day ++ 'T' :: rest) = some (day, 'T' :: rest) :=
    fun rest => part_padded hday.1 hday.2 (by omega) (noDigitFirst_cons rfl)
  have hhour' : ∀ rest, part 0 23 (padded 2 hour ++ ':' :: rest) = some (hour, ':' :: rest) :=
    fun rest => part_padded (Nat.zero_le _) hhour (by omega) (noDigitFirst_cons rfl)
  have hminute' : ∀ rest, part 0 59 (padded 2 minute ++ ':' :: rest) =
      some (minute, ':' :: rest) :=
    fun rest => part_padded (Nat.zero_le _) hminute (by omega) (noDigitFirst_cons rfl)
  have hsecond' : part 0 60 (padded 2 second ++ (printFraction nanos ++ letterZone)) =
      some (second, printFraction nanos ++ letterZone) :=
    part_padded (Nat.zero_le _) hsecond (by omega) (noDigitFirst_printFraction nanos hletter)
  have hfraction : fraction (printFraction nanos ++ letterZone) = some (nanos, letterZone) :=
    fraction_print hnanos hletter (by decide)
  have hzone : zone (trimStart letterZone) = some (0, []) := by decide
  unfold ofText?
  simp only [List.append_assoc, List.cons_append]
  refine (bind_of_eq_some (hyear _)).trans ?_
  refine (bind_of_eq_some (hdash _)).trans ?_
  refine (bind_of_eq_some (hmonth' _)).trans ?_
  refine (bind_of_eq_some (hdash _)).trans ?_
  refine (bind_of_eq_some (hday' _)).trans ?_
  refine (if_pos (Or.inr (Or.inl rfl))).trans ?_
  refine (bind_of_eq_some (hhour' _)).trans ?_
  refine (bind_of_eq_some (hcolon _)).trans ?_
  refine (bind_of_eq_some (hminute' _)).trans ?_
  refine (bind_of_eq_some (hcolon _)).trans ?_
  refine (bind_of_eq_some hsecond').trans ?_
  refine (bind_of_eq_some hfraction).trans ?_
  refine (bind_of_eq_some hzone).trans ?_
  have hnear : decide (Int.natAbs 0 < 1440) = true := by decide
  simp only [trimStart, List.dropWhile_nil, List.isEmpty_nil, Bool.and_true, hnear, Int.mul_zero,
    Int.sub_zero]

/-- **The text of a timestamp is read as the timestamp.** -/
theorem ofText?_print {t : Timestamp} (h : t.IsLegible) :
    ofText? (t.print letterZone) = some t := by
  have hvalid := Date.isValid_ofDays h.least h.most
  have hdays := Date.toDays_ofDays (t.seconds / secondsPerDay)
  obtain ⟨hmonthLeast, hmonthMost, hdayLeast, hdayMost⟩ := bounds_of_isValid hvalid
  have hnanos := h.nanos
  -- the second of the day, and that of the minute, which is 59 where it is prolonged
  obtain ⟨second, hsecond⟩ : ∃ n : Nat, t.seconds % secondsPerDay = n :=
    Int.eq_ofNat_of_zero_le (Int.emod_nonneg _ (by decide))
  have hseconds : t.seconds / secondsPerDay * secondsPerDay + second = t.seconds := by
    rw [← hsecond]
    exact Int.ediv_mul_add_emod _ _
  have hlt : (second : Int) < 86400 := by
    rw [← hsecond]
    exact Int.emod_lt_of_pos _ (by decide)
  have hminute : t.seconds % 60 = (second % 60 : Nat) := by
    rw [← hseconds, secondsPerDay]
    omega
  simp only [print, hsecond, Int.toNat_natCast]
  rw [ofText?_parts _ ⟨hmonthLeast, hmonthMost⟩ ⟨hdayLeast, hdayMost⟩ (by omega) (by omega)
    (by omega) (Nat.mod_lt _ (by decide))]
  have hofDay : 3600 * (second / 3600) + 60 * (second / 60 % 60)
      + min (second % 60 + t.nanos / 1000000000) 59 = second := by omega
  simp only [hdays, hofDay, hseconds]
  have hprolonged : (if second % 60 + t.nanos / 1000000000 = 60
      then t.nanos % 1000000000 + 1000000000 else t.nanos % 1000000000) = t.nanos := by
    split <;> omega
  rw [hprolonged, if_pos (by rw [Bool.and_eq_true]; exact ⟨hvalid, hvalid⟩)]

end ParamSql.Timestamp
