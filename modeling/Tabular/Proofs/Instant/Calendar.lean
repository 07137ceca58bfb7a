import Tabular.Calendar
/-!
# Dates and day numbers

A day of an era lies in one of its centuries, in one of the four-year spans of the century, and in
one of the years of the span (`Date.exists_century`). From this the year of a day is found as
`Date.ofDayNumber` finds it, by taking off the leap days that have passed (`Date.exists_yearOfEra`).
So the date of a day has the number of that day (`Date.dayNumber_ofDayNumber`), and different days
have different dates.

A year has a day 365 only when it ends with a leap day, so the day of a date is a day that its month
has (`Date.ofDayNumber_fits`). The days of the years that can be read are a range of day numbers
(`Date.year_mem_iff`), and their dates are valid (`Date.isValid_ofDayNumber`).
-/

namespace Tabular.Date

/-- A day of an era lies in a century, in four years of the century, and in one of these years. Only
the last of four years has a day 365, counted from zero, and at the end of a century only the last
century does. -/
theorem exists_century {d : Int} (hlow : 0 ≤ d) (hhigh : d < 146097) :
    ∃ century quad year day : Int, d = 36524 * century + 1461 * quad + 365 * year + day ∧
      0 ≤ century ∧ century ≤ 3 ∧ 0 ≤ quad ∧ quad ≤ 24 ∧ 0 ≤ year ∧ year ≤ 3 ∧
      0 ≤ day ∧ day ≤ 365 ∧ (day = 365 → year = 3) ∧
      (1461 * quad + 365 * year + day < 36524 ∨ d = 146096) := by
  let century := min 3 (d / 36524)
  let quad := (d - 36524 * century) / 1461
  let year := min 3 ((d - 36524 * century - 1461 * quad) / 365)
  refine ⟨century, quad, year, d - 36524 * century - 1461 * quad - 365 * year, ?_⟩
  omega

theorem isLeapYear_eq_true_iff {year : Int} :
    isLeapYear year = true ↔ year % 4 = 0 ∧ (year % 100 ≠ 0 ∨ year % 400 = 0) := by
  simp [isLeapYear]

/-- Leap years repeat after an era. -/
theorem isLeapYear_add_era (year era : Int) :
    isLeapYear (year + era * 400) = isLeapYear year := by
  rw [Bool.eq_iff_iff, isLeapYear_eq_true_iff, isLeapYear_eq_true_iff]
  omega

/-- The year within an era of a day of the era, and the day of that year. Years are counted from
March, so a leap day belongs to the year before the one that it makes a leap year. -/
theorem exists_yearOfEra {d : Int} (hlow : 0 ≤ d) (hhigh : d < 146097) :
    ∃ year day : Int, 0 ≤ year ∧ year ≤ 399 ∧ 0 ≤ day ∧ day ≤ 365 ∧
      (day = 365 → isLeapYear (year + 1) = true) ∧
      d = year * 365 + year / 4 - year / 100 + day ∧
      (d - d / 1460 + d / 36524 - d / 146096) / 365 = year := by
  obtain ⟨century, quad, year, day, hd, hc, hc', hq, hq', hy, hy', hday, hday', hlast, hend⟩ :=
    exists_century hlow hhigh
  have hcentury : d / 36524 - d / 146096 = century := by
    obtain hend | rfl := hend
    · have hmost : d / 146096 = 0 := by omega
      have hdiv : d / 36524 = century := by omega
      omega
    · have : century = 3 := by omega
      omega
  have hquad : d / 1460 = 25 * century + quad ∨
      d / 1460 = 25 * century + quad + 1 ∧ 1460 ≤ 24 * century + quad + 365 * year + day := by
    omega
  have hfour : (100 * century + 4 * quad + year) / 4 = 25 * century + quad := by omega
  have hhundred : (100 * century + 4 * quad + year) / 100 = century := by omega
  have hleap : day = 365 → isLeapYear (100 * century + 4 * quad + year + 1) = true := by
    intro h
    rw [isLeapYear_eq_true_iff]
    omega
  refine ⟨100 * century + 4 * quad + year, day, by omega, by omega, hday, hday', hleap, by omega,
    ?_⟩
  -- the leap days passed are taken off, so the years have 365 days each
  have hpassed : d - d / 1460 + d / 36524 - d / 146096 = d - d / 1460 + century := by omega
  rw [hpassed]
  omega

/-- The parts that a date is put together from: an era, a year of the era, a month counted from
March, and a day of the month. A month ends where the next one begins, and February with the
year. -/
theorem exists_ofDayNumber (n : Int) :
    ∃ era year month day : Int, 0 ≤ year ∧ year ≤ 399 ∧ 0 ≤ month ∧ month ≤ 11 ∧ 1 ≤ day ∧
      day ≤ 31 ∧ (153 * month + 2) / 5 + day ≤ (153 * (month + 1) + 2) / 5 ∧
      (month = 11 → day.toNat ≤ if isLeapYear (year + 1) then 29 else 28) ∧
      n = era * daysPerEra + (year * 365 + year / 4 - year / 100 +
        ((153 * month + 2) / 5 + day - 1)) - epochOffset ∧
      ofDayNumber n = if month < 10 then ⟨year + era * 400, (month + 3).toNat, day.toNat⟩
        else ⟨year + era * 400 + 1, (month - 9).toNat, day.toNat⟩ := by
  have hlow : 0 ≤ (n + epochOffset) % daysPerEra := by unfold daysPerEra; omega
  have hhigh : (n + epochOffset) % daysPerEra < 146097 := by unfold daysPerEra; omega
  have hn : n = (n + epochOffset) / daysPerEra * daysPerEra + (n + epochOffset) % daysPerEra -
      epochOffset := by
    unfold daysPerEra
    omega
  obtain ⟨year, rest, hyear, hyear', hrest, hrest', hleap, hd, hyearOfEra⟩ :=
    exists_yearOfEra hlow hhigh
  have hdayOfYear :
      (n + epochOffset) % daysPerEra - (365 * year + year / 4 - year / 100) = rest := by omega
  let month := (5 * rest + 2) / 153
  have hfebruary : month = 11 →
      (rest - (153 * month + 2) / 5 + 1).toNat ≤ if isLeapYear (year + 1) then 29 else 28 := by
    intro h
    split
    case isTrue => omega
    case isFalse hyear =>
      have : rest ≠ 365 := fun hrest => hyear (hleap hrest)
      omega
  refine ⟨(n + epochOffset) / daysPerEra, year, month, rest - (153 * month + 2) / 5 + 1, hyear,
    hyear', by omega, by omega, by omega, by omega, by omega, hfebruary, by omega, ?_⟩
  rw [ofDayNumber]
  simp only [hyearOfEra, hdayOfYear]
  by_cases hmonth : month < 10
  · have hlate : ¬ month + 3 ≤ 2 := by omega
    rw [if_pos hmonth, if_pos hmonth, if_neg hlate]
  · have hearly : month - 9 ≤ 2 := by omega
    rw [if_neg hmonth, if_neg hmonth, if_pos hearly]

/-- **The date of a day has the number of that day.** -/
theorem dayNumber_ofDayNumber (n : Int) : (ofDayNumber n).dayNumber = n := by
  obtain ⟨era, year, month, day, hyear, hyear', hmonth, hmonth', hday, hday', -, -, hn, hdate⟩ :=
    exists_ofDayNumber n
  have hera : (year + era * 400) / 400 = era := by omega
  have hyearOfEra : (year + era * 400) % 400 = year := by omega
  rw [hdate]
  split
  · have hnat : ¬ (month + 3).toNat ≤ 2 := by omega
    have hmarch : (((month + 3).toNat + 9 : Nat) : Int) % 12 = month := by omega
    have hday'' : (day.toNat : Int) = day := by omega
    simp only [dayNumber, hnat, if_false, hera, hyearOfEra, hmarch, hday'']
    exact hn.symm
  · have hnat : (month - 9).toNat ≤ 2 := by omega
    have hmarch : (((month - 9).toNat + 9 : Nat) : Int) % 12 = month := by omega
    have hday'' : (day.toNat : Int) = day := by omega
    have hyear'' : year + era * 400 + 1 - 1 = year + era * 400 := by omega
    simp only [dayNumber, hnat, if_true, hyear'', hera, hyearOfEra, hmarch, hday'']
    exact hn.symm

/-! ## Valid dates -/

/-- **A date has a month of the year and a day of that month.** -/
theorem ofDayNumber_fits (n : Int) :
    1 ≤ (ofDayNumber n).month ∧ (ofDayNumber n).month ≤ 12 ∧ 1 ≤ (ofDayNumber n).day ∧
      (ofDayNumber n).day ≤ daysInMonth (ofDayNumber n).year (ofDayNumber n).month := by
  obtain ⟨era, year, month, day, -, -, hmonth, hmonth', hday, hday', hlength, hfebruary, -, hdate⟩ :=
    exists_ofDayNumber n
  rw [hdate]
  split
  · refine ⟨show 1 ≤ (month + 3).toNat by omega, show (month + 3).toNat ≤ 12 by omega,
      show 1 ≤ day.toNat by omega, ?_⟩
    have hlate : (month + 3).toNat ≠ 2 := by omega
    simp only [daysInMonth, if_neg hlate]
    split <;> omega
  · refine ⟨show 1 ≤ (month - 9).toNat by omega, show (month - 9).toNat ≤ 12 by omega,
      show 1 ≤ day.toNat by omega, ?_⟩
    have hyear : year + era * 400 + 1 = year + 1 + era * 400 := by omega
    by_cases hlast : month = 11
    · have htwo : (month - 9).toNat = 2 := by omega
      simpa only [daysInMonth, htwo, if_true, hyear, isLeapYear_add_era] using hfebruary hlast
    · have hone : (month - 9).toNat = 1 := by omega
      simp only [hone]
      exact show day.toNat ≤ 31 by omega

theorem daysInMonth_le (year : Int) (month : Nat) : daysInMonth year month ≤ 31 := by
  unfold daysInMonth
  repeat' split
  all_goals decide

/-- A date has a month and a day of the month. -/
theorem ofDayNumber_bounds (n : Int) : (ofDayNumber n).month ≤ 12 ∧ (ofDayNumber n).day ≤ 31 := by
  obtain ⟨-, hmonth, -, hday⟩ := ofDayNumber_fits n
  exact ⟨hmonth, Nat.le_trans hday (daysInMonth_le ..)⟩

/-- The days of the years that can be read. -/
theorem year_mem_iff (n : Int) :
    minYear ≤ (ofDayNumber n).year ∧ (ofDayNumber n).year ≤ maxYear ↔
      -96465292 ≤ n ∧ n ≤ 95026236 := by
  obtain ⟨era, year, month, day, hyear, hyear', hmonth, hmonth', hday, hday', hlength, hfebruary,
    hn, hdate⟩ := exists_ofDayNumber n
  have hlast : month = 11 → day ≤ 29 := by
    intro h
    have := hfebruary h
    split at this <;> omega
  have hrest : (153 * month + 2) / 5 + day ≤ 366 := by omega
  have hsplit : month < 10 ∧ (153 * month + 2) / 5 + day ≤ 306 ∨
      ¬ month < 10 ∧ 307 ≤ (153 * month + 2) / 5 + day := by omega
  have hpos : 1 ≤ (153 * month + 2) / 5 + day := by omega
  have hera : era < -656 ∨ era = -656 ∨ -656 < era ∧ era < 655 ∨ era = 655 ∨ 655 < era := by omega
  unfold daysPerEra epochOffset at hn
  rw [hdate]
  unfold minYear maxYear
  generalize (153 * month + 2) / 5 + day = rest at hrest hsplit hpos hn
  obtain ⟨hm, hrest'⟩ | ⟨hm, hrest'⟩ := hsplit
  · rw [if_pos hm]
    simp only
    rcases hera with h | rfl | h | rfl | h <;> omega
  · rw [if_neg hm]
    simp only
    rcases hera with h | rfl | h | rfl | h <;> omega

/-- **The date of a day of these years is valid.** -/
theorem isValid_ofDayNumber {n : Int}
    (h : minYear ≤ (ofDayNumber n).year ∧ (ofDayNumber n).year ≤ maxYear) :
    (ofDayNumber n).isValid = true :=
  decide_eq_true ⟨h.1, h.2, ofDayNumber_fits n⟩

end Tabular.Date
