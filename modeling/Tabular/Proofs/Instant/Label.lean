import Tabular.Instant.Text
import Tabular.Proofs.Instant.Calendar
import Tabular.Proofs.Text.Digits
/-!
# The texts of instants tell them apart

The date of an instant is written with a month and a day of two digits, so that the year is what
stands in front of them; two instants with the same date text have the same day
(`Instant.day_eq_of_dateText_eq`). The stamp of an instant is its date, the letter T, the time of day
in eight characters, and a fraction of three digits unless the second is whole. No date has a T, so
instants with the same stamp have the same date and the same time of day
(`Instant.eq_of_stamp_eq`).
-/

namespace Tabular.Instant

open Text

/-! ## Padded numbers -/

theorem natOfDigits_padded (width n : Nat) : natOfDigits (padded width n).toList = n := by
  rw [padded, String.toList_ofList, natOfDigits_replicate_append, natOfDigits_toDigits]

theorem eq_of_padded_eq {width n n' : Nat} (h : padded width n = padded width n') : n = n' := by
  rw [← natOfDigits_padded width n, h, natOfDigits_padded]

theorem isAsciiDigit_of_mem_padded {width n : Nat} {c : Char} (h : c ∈ (padded width n).toList) :
    isAsciiDigit c = true := by
  rw [padded, String.toList_ofList] at h
  exact (List.mem_append.mp h).elim isAsciiDigit_of_mem_replicate isAsciiDigit_of_mem_toDigits

/-- A number with no more digits than the width fills the width. -/
theorem length_padded {width n : Nat} (hpos : 0 < width) (h : n < 10 ^ width) :
    (padded width n).toList.length = width := by
  have hle := (Nat.length_toDigits_le_iff (by decide) hpos).mpr h
  rw [padded, String.toList_ofList, List.length_append, List.length_replicate]
  omega

/-! ## Dates -/

/-- Texts put together from parts of which the last have the same length have the same parts. -/
theorem append_inj_of_length {s s' t t' : String} (h : s ++ t = s' ++ t')
    (hlength : t.toList.length = t'.toList.length) : s = s' ∧ t = t' := by
  have hlist : s.toList ++ t.toList = s'.toList ++ t'.toList := by
    rw [← String.toList_append, h, String.toList_append]
  obtain ⟨hs, ht⟩ := List.append_inj' hlist hlength
  exact ⟨String.toList_inj.mp hs, String.toList_inj.mp ht⟩

/-- The sign of a year. -/
def yearSign (year : Int) : String := if year < 0 then "-" else if 9999 < year then "+" else ""

theorem yearText_eq (year : Int) : yearText year = yearSign year ++ padded 4 year.natAbs := by
  unfold yearText yearSign
  split
  · rfl
  · split
    · rfl
    · rw [String.empty_append]

theorem mem_yearText {year : Int} {c : Char} (h : c ∈ (yearText year).toList) :
    c = '-' ∧ year < 0 ∨ c = '+' ∨ isAsciiDigit c = true := by
  rw [yearText_eq, String.toList_append] at h
  rcases List.mem_append.mp h with h | h
  · unfold yearSign at h
    split at h
    case isTrue hneg => exact .inl ⟨List.mem_singleton.mp h, hneg⟩
    case isFalse =>
      split at h
      · exact .inr (.inl (List.mem_singleton.mp h))
      · cases h
  · exact .inr (.inr (isAsciiDigit_of_mem_padded h))

/-- A year begins with a minus sign when it is negative. -/
theorem minus_mem_yearText {year : Int} : '-' ∈ (yearText year).toList ↔ year < 0 := by
  constructor
  · intro h
    rcases mem_yearText h with h | h | h
    · exact h.2
    · exact absurd h (by decide)
    · exact absurd h (by decide)
  · intro h
    rw [yearText_eq, yearSign, if_pos h, String.toList_append]
    exact List.mem_append_left _ (by decide)

theorem filter_yearText (year : Int) :
    (yearText year).toList.filter isAsciiDigit = (padded 4 year.natAbs).toList := by
  have hsign : (yearSign year).toList.filter isAsciiDigit = [] := by
    unfold yearSign
    split
    · decide
    · split <;> decide
  have hdigits : (padded 4 year.natAbs).toList.filter isAsciiDigit =
      (padded 4 year.natAbs).toList :=
    List.filter_eq_self.mpr fun c => isAsciiDigit_of_mem_padded
  rw [yearText_eq, String.toList_append, List.filter_append, hsign, hdigits, List.nil_append]

theorem eq_of_yearText_eq {year year' : Int} (h : yearText year = yearText year') :
    year = year' := by
  have hsign : year < 0 ↔ year' < 0 := by
    rw [← minus_mem_yearText, h, minus_mem_yearText]
  have habs : year.natAbs = year'.natAbs := by
    rw [← natOfDigits_padded 4 year.natAbs, ← filter_yearText, h, filter_yearText,
      natOfDigits_padded]
  omega

theorem date_bounds (t : Instant) : t.date.month < 100 ∧ t.date.day < 100 := by
  have h := Date.ofDayNumber_bounds t.day
  exact ⟨h.1.trans_lt (by decide), h.2.trans_lt (by decide)⟩

/-- Two numbers below one hundred are written with two digits both. -/
theorem length_padded_two {n n' : Nat} (hn : n < 100) (hn' : n' < 100) :
    (padded 2 n).toList.length = (padded 2 n').toList.length := by
  rw [length_padded (by decide) hn, length_padded (by decide) hn']

/-- Dates are told apart by their texts, since their months and days have two digits. -/
theorem day_eq_of_dateText_eq {t t' : Instant} (h : t.dateText = t'.dateText) : t.day = t'.day := by
  obtain ⟨hmonth, hday⟩ := t.date_bounds
  obtain ⟨hmonth', hday'⟩ := t'.date_bounds
  obtain ⟨h, hday⟩ := append_inj_of_length h (length_padded_two hday hday')
  obtain ⟨h, -⟩ := append_inj_of_length h rfl
  obtain ⟨h, hmonth⟩ := append_inj_of_length h (length_padded_two hmonth hmonth')
  obtain ⟨hyear, -⟩ := append_inj_of_length h rfl
  have hdate : t.date = t'.date := by
    have hyear := eq_of_yearText_eq hyear
    have hmonth := eq_of_padded_eq hmonth
    have hday := eq_of_padded_eq hday
    cases hd : t.date
    cases hd' : t'.date
    simp_all
  rw [← Date.dayNumber_ofDayNumber t.day, ← Date.dayNumber_ofDayNumber t'.day]
  exact congrArg Date.dayNumber hdate

/-- No letter is in a date. -/
theorem not_mem_dateText (t : Instant) : 'T' ∉ t.dateText.toList := by
  have hdigits {n : Nat} : 'T' ∉ (padded 2 n).toList := fun h =>
    absurd (isAsciiDigit_of_mem_padded h) (by decide)
  have hyear : 'T' ∉ (yearText t.date.year).toList := by
    intro h
    rcases mem_yearText h with ⟨h, -⟩ | h | h <;> exact absurd h (by decide)
  simp [dateText, hdigits, hyear]

/-! ## Stamps -/

/-- The seconds of a day. -/
theorem seconds_bounds (t : Instant) :
    0 ≤ t.millisOfDay / 1000 ∧ t.millisOfDay / 1000 < 86400 ∧
      t.millisOfDay = t.millisOfDay / 1000 * 1000 + t.millisOfDay % 1000 := by
  unfold millisOfDay millisPerDay
  omega

/-- The time of day is told by its text, which has two digits for each part. -/
theorem seconds_eq_of_timeText_eq {t t' : Instant} (h : t.timeText = t'.timeText) :
    t.millisOfDay / 1000 = t'.millisOfDay / 1000 := by
  obtain ⟨hlow, hhigh, -⟩ := seconds_bounds t
  obtain ⟨hlow', hhigh', -⟩ := seconds_bounds t'
  unfold timeText at h
  simp only at h
  generalize hs : (t.millisOfDay / 1000).toNat = s at h
  generalize hs' : (t'.millisOfDay / 1000).toNat = s' at h
  obtain ⟨h, hsecond⟩ := append_inj_of_length h (length_padded_two (by omega) (by omega))
  obtain ⟨h, -⟩ := append_inj_of_length h rfl
  obtain ⟨h, hminute⟩ := append_inj_of_length h (length_padded_two (by omega) (by omega))
  obtain ⟨hhour, -⟩ := append_inj_of_length h rfl
  have hsecond := eq_of_padded_eq hsecond
  have hminute := eq_of_padded_eq hminute
  have hhour := eq_of_padded_eq hhour
  omega

theorem length_timeText (t : Instant) : t.timeText.toList.length = 8 := by
  obtain ⟨hlow, hhigh, -⟩ := seconds_bounds t
  have htwo {n : Nat} (hn : n < 100) : (padded 2 n).toList.length = 2 :=
    length_padded (by decide) hn
  unfold timeText
  simp only [String.toList_append, List.length_append]
  rw [htwo (by omega), htwo (by omega), htwo (by omega)]
  rfl

/-- The decimal places of the second. -/
def fractionText (t : Instant) : String :=
  if (t.millisOfDay % 1000).toNat = 0 then "" else "." ++ padded 3 (t.millisOfDay % 1000).toNat

theorem stamp_eq {t : Instant} (h : t.inCalendar = true) :
    t.stamp = t.dateText ++ "T" ++ t.timeText ++ t.fractionText ++ "Z" := by
  rw [stamp, if_pos h]
  rfl

theorem millis_eq_of_fractionText_eq {t t' : Instant} (h : t.fractionText = t'.fractionText) :
    t.millisOfDay % 1000 = t'.millisOfDay % 1000 := by
  have hne {n : Nat} : "" ≠ "." ++ padded 3 n := by
    intro h
    have := congrArg (·.toList) h
    simp at this
  unfold fractionText at h
  split at h <;> split at h
  · omega
  · exact absurd h hne
  · exact absurd h.symm hne
  · have hmillis := eq_of_padded_eq ((String.append_right_inj ".").mp h)
    omega

/-- **Instants of the calendar are told apart by their stamps.** -/
theorem eq_of_stamp_eq {t t' : Instant} (ht : t.inCalendar = true) (ht' : t'.inCalendar = true)
    (h : t.stamp = t'.stamp) : t = t' := by
  rw [stamp_eq ht, stamp_eq ht'] at h
  obtain ⟨h, -⟩ := append_inj_of_length h rfl
  have hlist : t.dateText.toList ++ 'T' :: (t.timeText ++ t.fractionText).toList =
      t'.dateText.toList ++ 'T' :: (t'.timeText ++ t'.fractionText).toList := by
    simpa [String.toList_append] using congrArg String.toList h
  -- the date ends at the first T
  have hdate {u : Instant} : ∀ c ∈ u.dateText.toList, (c != 'T') = true := by
    intro c hc
    refine bne_iff_ne.mpr ?_
    rintro rfl
    exact not_mem_dateText u hc
  obtain ⟨hdays, htimes⟩ := append_eq_append_of_beginsOutside hdate hdate
    (by rintro c ⟨⟩; rfl) (by rintro c ⟨⟩; rfl) hlist
  have htimes := (List.cons.inj htimes).2
  rw [String.toList_append, String.toList_append] at htimes
  obtain ⟨hseconds, hfraction⟩ := List.append_inj htimes
    ((length_timeText t).trans (length_timeText t').symm)
  have hday := day_eq_of_dateText_eq (String.toList_inj.mp hdays)
  have hsecond := seconds_eq_of_timeText_eq (String.toList_inj.mp hseconds)
  have hmillis := millis_eq_of_fractionText_eq (String.toList_inj.mp hfraction)
  have hint : t.toInt = t'.toInt := by
    have hparts (u : Instant) : u.toInt = u.day * millisPerDay + u.millisOfDay := by
      unfold day millisOfDay millisPerDay
      omega
    have hsum := (seconds_bounds t).2.2
    have hsum' := (seconds_bounds t').2.2
    rw [hparts, hparts, hday, hsum, hsum', hsecond, hmillis]
  cases t
  cases t'
  exact congrArg Instant.mk (Int64.toInt_inj.mp hint)

/-! ## White space -/

theorem unspaced_padded (width n : Nat) : Unspaced (padded width n) :=
  fun _ hc => isSpace_eq_false_of_isAsciiDigit (isAsciiDigit_of_mem_padded hc)

theorem unspaced_dateText (t : Instant) : Unspaced t.dateText := by
  have hyear : Unspaced (yearText t.date.year) := by
    intro c hc
    rcases mem_yearText hc with ⟨rfl, -⟩ | rfl | hdigit
    · decide
    · decide
    · exact isSpace_eq_false_of_isAsciiDigit hdigit
  exact (((hyear.append (by decide)).append (unspaced_padded _ _)).append (by decide)).append
    (unspaced_padded _ _)

theorem unspaced_timeText (t : Instant) : Unspaced t.timeText :=
  ((((unspaced_padded _ _).append (by decide)).append (unspaced_padded _ _)).append
    (by decide)).append (unspaced_padded _ _)

theorem unspaced_stamp {t : Instant} (h : t.inCalendar = true) : Unspaced t.stamp := by
  have hfraction : Unspaced t.fractionText := by
    unfold fractionText
    split
    · decide
    · exact Unspaced.append (by decide) (unspaced_padded _ _)
  rw [stamp_eq h]
  exact ((((unspaced_dateText t).append (by decide)).append (unspaced_timeText t)).append
    hfraction).append (by decide)

end Tabular.Instant
