import ParamSql.Time.Calendar

/-!
# Days and dates

A year from March to February has 365 days, every fourth one has 366, every hundredth 365 again and
every four hundredth 366 still. So a day of an era of 400 years is a count of centuries, of
four years, of years and of days.

* `Date.exists_cycles` — the four counts of a day of an era.
* `Date.yearOfEra_spec` — the year and the day of the year that they make.
* `Date.toDays_ofDays` — the date of a day stands for that day.
* `Date.isValid_ofDays` — the date of a day exists, as far as its year is one that dates reach.
-/

set_option autoImplicit false

namespace ParamSql.Date

/-! ## Years of an era -/

/-- The year of an era that a day of the era falls in. -/
def yearOfEra (day : Nat) : Nat := (day - day / 1460 + day / 36524 - day / 146096) / 365

/-- The day of an era that a year of the era starts with. -/
def yearStart (year : Nat) : Nat := 365 * year + year / 4 - year / 100

/-- **A day of an era is a count of centuries, of four years, of years and of days.** A year has a
day more only if it is the last of four years, and these are not the last ones of a century, unless
that is the last of the era. -/
theorem exists_cycles {day : Nat} (h : day < 146097) :
    ∃ centuries quads years days : Nat,
      day = 36524 * centuries + 1461 * quads + 365 * years + days ∧
      centuries ≤ 3 ∧ quads ≤ 24 ∧ years ≤ 3 ∧ days ≤ 365 ∧
      (days = 365 → years = 3 ∧ (quads < 24 ∨ centuries = 3)) := by
  obtain ⟨c, r, hday, hc, hr⟩ : ∃ c r : Nat, day = 36524 * c + r ∧ c ≤ 3 ∧
      (r < 36524 ∨ c = 3 ∧ r = 36524) :=
    ⟨min (day / 36524) 3, day - 36524 * min (day / 36524) 3, by omega, by omega, by omega⟩
  obtain ⟨q, t, hr', hq, ht⟩ : ∃ q t : Nat, r = 1461 * q + t ∧ q ≤ 24 ∧
      (t < 1461 ∧ (q = 24 → c ≠ 3 → t < 1460)) :=
    ⟨min (r / 1461) 24, r - 1461 * min (r / 1461) 24, by omega, by omega, by omega⟩
  exact ⟨c, q, min (t / 365) 3, t - 365 * min (t / 365) 3, by omega, hc, hq, by omega, by omega,
    by omega⟩

section Cycles

variable {day c q s d : Nat}

theorem yearOfEra_eq (hday : day = 36524 * c + 1461 * q + 365 * s + d) (hc : c ≤ 3) (hq : q ≤ 24)
    (hs : s ≤ 3) (hd : d ≤ 365) (hleap : d = 365 → s = 3 ∧ (q < 24 ∨ c = 3)) :
    yearOfEra day = 100 * c + 4 * q + s := by
  have hquads : day / 1460 = 25 * c + q + (24 * c + q + 365 * s + d) / 1460 := by omega
  have hcenturies : day / 36524 = c + (1461 * q + 365 * s + d) / 36524 := by omega
  rw [yearOfEra, hquads, hcenturies, hday]
  clear hquads hcenturies hday
  by_cases hlast : c = 3 ∧ q = 24 ∧ s = 3 ∧ d = 365
  · obtain ⟨rfl, rfl, rfl, rfl⟩ := hlast
    rfl
  · have hcentury : (1461 * q + 365 * s + d) / 36524 = 0 := by omega
    have hera : (36524 * c + 1461 * q + 365 * s + d) / 146096 = 0 := by omega
    -- four years of 1460 days may be through before their leap day, which is never the first day
    have hextra : (24 * c + q + 365 * s + d) / 1460 ≤ 1 := by omega
    have hfirst : (24 * c + q + 365 * s + d) / 1460 = 1 → 1 ≤ d := by omega
    have hlong : d = 365 → (24 * c + q + 365 * s + d) / 1460 = 1 := by omega
    rw [hcentury, hera]
    generalize (24 * c + q + 365 * s + d) / 1460 = extra at *
    omega

theorem yearStart_eq (hq : q ≤ 24) (hs : s ≤ 3) :
    yearStart (100 * c + 4 * q + s) = 36524 * c + 1461 * q + 365 * s := by
  have hquads : (100 * c + 4 * q + s) / 4 = 25 * c + q := by omega
  have hcenturies : (100 * c + 4 * q + s) / 100 = c := by omega
  rw [yearStart, hquads, hcenturies]
  omega

end Cycles

/-- **The year of a day of an era.** It is one of 400; the day is one of the 366 from its start, and
the last one of them only where the following year has a leap day. -/
theorem yearOfEra_spec {day : Nat} (h : day < 146097) :
    yearOfEra day < 400 ∧ yearStart (yearOfEra day) ≤ day ∧
      day ≤ yearStart (yearOfEra day) + 365 ∧
      (day = yearStart (yearOfEra day) + 365 → isLeapYear (yearOfEra day + 1) = true) := by
  obtain ⟨c, q, s, d, hday, hc, hq, hs, hd, hleap⟩ := exists_cycles h
  rw [yearOfEra_eq hday hc hq hs hd hleap, yearStart_eq hq hs]
  refine ⟨by omega, by omega, by omega, fun hlast => ?_⟩
  have hyears := hleap (by omega)
  simp only [isLeapYear, Bool.and_eq_true, Bool.or_eq_true, beq_iff_eq, bne_iff_ne]
  omega

/-! ## Months of a year from March -/

/-- The month, counted from March, that a day of the year falls in. -/
def shiftedMonth (day : Nat) : Nat := (5 * day + 2) / 153

/-- The day of the year that a month, counted from March, starts with. -/
def monthStart (month : Nat) : Nat := (153 * month + 2) / 5

theorem monthStart_le (day : Nat) : monthStart (shiftedMonth day) ≤ day := by
  unfold monthStart shiftedMonth
  omega

/-- The months from March on have 31, 30, 31, 30, 31 days and so on again, and February, the last one,
is cut off by the end of the year. -/
theorem lt_monthStart_succ (day : Nat) : day < monthStart (shiftedMonth day + 1) := by
  unfold monthStart shiftedMonth
  omega

/-- The month, counted from January, of one counted from March. -/
def calendarMonth (shifted : Nat) : Nat := if shifted < 10 then shifted + 3 else shifted - 9

/-! ## Dates of days -/

/-- The date of a day of a year of an era, counted from March. -/
def ofYearDay (era : Int) (year day : Nat) : Date :=
  ⟨year + era * 400 + (if calendarMonth (shiftedMonth day) ≤ 2 then 1 else 0),
    calendarMonth (shiftedMonth day), day - monthStart (shiftedMonth day) + 1⟩

theorem ofDays_eq (days : Int) :
    let day := ((days - eraStart) % daysPerEra).toNat
    ofDays days =
      ofYearDay ((days - eraStart) / daysPerEra) (yearOfEra day) (day - yearStart (yearOfEra day)) :=
  rfl

theorem shiftedMonth_le {day : Nat} (h : day ≤ 365) : shiftedMonth day ≤ 11 := by
  unfold shiftedMonth
  omega

/-- The day number of a date is that of its era, its year and its day of the year. -/
theorem toDays_ofYearDay (era : Int) {year day : Nat} (hyear : year < 400) (hday : day ≤ 365) :
    (ofYearDay era year day).toDays = era * daysPerEra + (yearStart year + day : Nat) + eraStart := by
  have hmonth := shiftedMonth_le hday
  have hstart := monthStart_le day
  have hshifted : (if calendarMonth (shiftedMonth day) ≤ 2 then calendarMonth (shiftedMonth day) + 9
      else calendarMonth (shiftedMonth day) - 3) = shiftedMonth day := by
    unfold calendarMonth
    split <;> split <;> omega
  have hmarch : (if calendarMonth (shiftedMonth day) ≤ 2 then (ofYearDay era year day).year - 1
      else (ofYearDay era year day).year) = year + era * 400 := by
    unfold ofYearDay
    dsimp only
    split <;> omega
  have hera : ((year : Int) + era * 400) / 400 = era := by omega
  have hyearOf : (((year : Int) + era * 400) % 400).toNat = year := by omega
  have hdayOf : monthStart (shiftedMonth day) + (day - monthStart (shiftedMonth day) + 1) - 1 =
      day := by omega
  show (if calendarMonth (shiftedMonth day) ≤ 2 then (ofYearDay era year day).year - 1
      else (ofYearDay era year day).year) / 400 * daysPerEra
    + ((yearStart (((if calendarMonth (shiftedMonth day) ≤ 2 then (ofYearDay era year day).year - 1
        else (ofYearDay era year day).year) % 400).toNat)
      + (monthStart (if calendarMonth (shiftedMonth day) ≤ 2
          then calendarMonth (shiftedMonth day) + 9 else calendarMonth (shiftedMonth day) - 3)
        + (day - monthStart (shiftedMonth day) + 1) - 1) : Nat) : Int) + eraStart = _
  rw [hmarch, hshifted, hera, hyearOf, hdayOf]

/-- The leap years of all eras are the same. -/
theorem isLeapYear_era (year era : Int) :
    isLeapYear (year + era * 400 + 1) = isLeapYear (year + 1) := by
  have hfour : (year + era * 400 + 1) % 4 = (year + 1) % 4 := by omega
  have hhundred : (year + era * 400 + 1) % 100 = (year + 1) % 100 := by omega
  have hera : (year + era * 400 + 1) % 400 = (year + 1) % 400 := by omega
  rw [isLeapYear, isLeapYear, hfour, hhundred, hera]

/-- The months but February are as long as the calendar says. -/
theorem month_lengths : ∀ m < 11, 1 ≤ calendarMonth m ∧ calendarMonth m ≤ 12 ∧ calendarMonth m ≠ 2 ∧
    monthStart (m + 1) ≤ monthStart m +
      (if calendarMonth m == 4 || calendarMonth m == 6 || calendarMonth m == 9
        || calendarMonth m == 11 then 30 else 31) := by
  decide

/-- The month of a date exists, and has the day of the date. -/
theorem month_day_ofYearDay (era : Int) {year day : Nat} (hday : day ≤ 365)
    (hleap : day = 365 → isLeapYear (year + 1) = true) :
    1 ≤ (ofYearDay era year day).month ∧ (ofYearDay era year day).month ≤ 12 ∧
      (ofYearDay era year day).day ≤
        daysInMonth (ofYearDay era year day).year (ofYearDay era year day).month := by
  have hmonth := shiftedMonth_le hday
  have hstart := monthStart_le day
  have hend := lt_monthStart_succ day
  unfold ofYearDay
  dsimp only
  generalize shiftedMonth day = m at hmonth hstart hend
  by_cases hfebruary : m = 11
  · -- the last month has 28 days and, in a leap year, the day that ends the longest years
    subst hfebruary
    have hlong : calendarMonth 11 = 2 := rfl
    have hfirst : monthStart 11 = 337 := rfl
    rw [hlong, hfirst, if_pos (Nat.le_refl 2), daysInMonth, isLeapYear_era]
    refine ⟨by decide, by decide, ?_⟩
    by_cases hlast : day = 365
    · rw [hleap hlast, hlast]
      decide
    · simp only [beq_self_eq_true, if_true]
      split <;> omega
  · obtain ⟨hleast, hmost, hne, hlength⟩ := month_lengths m (by omega)
    refine ⟨hleast, hmost, ?_⟩
    rw [daysInMonth, if_neg (by simpa using hne)]
    omega

/-- **The date of a day stands for that day.** -/
theorem toDays_ofDays (days : Int) : (ofDays days).toDays = days := by
  have hera : 0 ≤ (days - eraStart) % daysPerEra ∧ (days - eraStart) % daysPerEra < 146097 :=
    ⟨Int.emod_nonneg _ (by decide), Int.emod_lt_of_pos _ (by decide)⟩
  obtain ⟨hyear, hstart, hend, -⟩ :=
    yearOfEra_spec (by omega : ((days - eraStart) % daysPerEra).toNat < 146097)
  have hdays := Int.mul_ediv_add_emod (days - eraStart) daysPerEra
  rw [ofDays_eq, toDays_ofYearDay _ hyear (by omega), Nat.add_sub_cancel' hstart,
    Int.toNat_of_nonneg hera.1, Int.mul_comm]
  omega

/-- **The date of a day exists**, as far as its year is one that dates reach. -/
theorem isValid_ofDays {days : Int} (hleast : minYear ≤ (ofDays days).year)
    (hmost : (ofDays days).year ≤ maxYear) : (ofDays days).isValid = true := by
  have hera : 0 ≤ (days - eraStart) % daysPerEra ∧ (days - eraStart) % daysPerEra < 146097 :=
    ⟨Int.emod_nonneg _ (by decide), Int.emod_lt_of_pos _ (by decide)⟩
  obtain ⟨hyear, hstart, hend, hleap⟩ :=
    yearOfEra_spec (by omega : ((days - eraStart) % daysPerEra).toNat < 146097)
  obtain ⟨hleastMonth, hmostMonth, hday⟩ : 1 ≤ (ofDays days).month ∧ (ofDays days).month ≤ 12 ∧
      (ofDays days).day ≤ daysInMonth (ofDays days).year (ofDays days).month := by
    rw [ofDays_eq]
    exact month_day_ofYearDay _ (by omega) fun hlast => hleap (by omega)
  simp only [isValid, Bool.and_eq_true, decide_eq_true_eq]
  exact ⟨⟨⟨⟨⟨hleast, hmost⟩, hleastMonth⟩, hmostMonth⟩, Nat.succ_pos _⟩, hday⟩

end ParamSql.Date
