import Mathlib
import Tabular.Filter.Evaluate
import Tabular.Proofs.Instant.ReadBack
/-!
# The start of a day

An instant is a signed 64-bit word, and so are its day and the start of its day. A machine finds the
day from the quotient toward zero, which is one too high for an instant in the course of a day before
1970, and the start of the day by a product that saturates. No step of this leaves the range of
words, and the results are exact (`day?_eq_some`, `startOfDay?_eq_some`).

The start of a day is its midnight, the greatest multiple of a day that is not after the instant
(`isGreatest_midnight`), or the least instant there is, on the one day whose midnight is out of range
(`toInt_startOfDay`). That instant is on the day as well, so all days begin on themselves
(`day_startOfDay`), and days follow each other as instants do (`day_le_day`). Date filters compare
days, and dates are grouped by the start of the day (`of_date_eq_iff`), so neither takes instants out
of their order (`startOfDay_exact`).
-/

namespace Tabular

/-! ## Checked arithmetic of signed words -/

namespace SignedWord

/-- The least signed word. -/
def least : Int := -0x8000000000000000

/-- The greatest signed word. -/
def greatest : Int := 0x7FFFFFFFFFFFFFFF

/-- A number, if it is a signed word. -/
def signed? (n : Int) : Option Int := if least ≤ n ∧ n ≤ greatest then some n else none

def sub? (a b : Int) : Option Int := signed? (a - b)

/-- The quotient toward zero. -/
def div? (a b : Int) : Option Int := if b = 0 then none else signed? (a.tdiv b)

/-- The remainder of the quotient toward zero, which has no result where the quotient has none. -/
def rem? (a b : Int) : Option Int := (div? a b).map fun _ => a.tmod b

/-- The quotient by a positive number, rounded down. -/
def divFloor? (a b : Int) : Option Int := do
  let q ← div? a b
  if (← rem? a b) < 0 then sub? q 1 else return q

/-- The product, or the end of the range beyond which it is. -/
def saturatingMul (a b : Int) : Int :=
  match signed? (a * b) with
  | some product => product
  | none => if (a < 0) = (b < 0) then greatest else least

theorem signed?_eq_some {n : Int} (hlow : least ≤ n) (hhigh : n ≤ greatest) :
    signed? n = some n := if_pos ⟨hlow, hhigh⟩

end SignedWord

open SignedWord

namespace Instant

theorem least_le_toInt (t : Instant) : least ≤ t.toInt := Int64.le_toInt t.millis

theorem toInt_le_greatest (t : Instant) : t.toInt ≤ greatest :=
  Int.le_of_lt_add_one (Int64.toInt_lt t.millis)

/-- The day of an instant, in checked arithmetic. -/
def day? (t : Instant) : Option Int := divFloor? t.toInt millisPerDay

/-- The milliseconds at the start of the day of an instant, in checked arithmetic. -/
def startOfDay? (t : Instant) : Option Int := do
  return saturatingMul (← t.day?) millisPerDay

/-! ## The day -/

/-- The quotient toward zero is the day, or the one after it when the day is before 1970 and has
begun. -/
theorem day_eq_tdiv (t : Instant) :
    t.day = t.toInt.tdiv millisPerDay -
      if t.toInt.tmod millisPerDay < 0 then 1 else 0 := by
  have hquotient : t.toInt.tdiv millisPerDay =
      t.toInt / millisPerDay + if 0 ≤ t.toInt ∨ millisPerDay ∣ t.toInt then 0 else 1 :=
    Int.tdiv_eq_ediv
  rw [Int.tmod_def, day, hquotient]
  unfold millisPerDay
  split_ifs <;> omega

/-- No step leaves the range of words on the way to the day. -/
theorem day?_eq_some (t : Instant) : t.day? = some t.day := by
  have hlow := t.least_le_toInt
  have hhigh := t.toInt_le_greatest
  have hday : least < t.day ∧ t.day < greatest := by
    unfold day millisPerDay
    unfold least greatest at *
    omega
  have heq := t.day_eq_tdiv
  have hquotient : div? t.toInt millisPerDay = some (t.toInt.tdiv millisPerDay) := by
    rw [div?, if_neg (by decide)]
    exact signed?_eq_some (by split at heq <;> omega) (by split at heq <;> omega)
  rw [day?, divFloor?, rem?, hquotient]
  simp only [Option.map_some, Option.bind_eq_bind, Option.bind_some]
  split
  case isTrue hbehind =>
    rw [if_pos hbehind] at heq
    rw [sub?, ← heq]
    exact signed?_eq_some hday.1.le hday.2.le
  case isFalse hbehind =>
    rw [if_neg hbehind, Int.sub_zero] at heq
    rw [heq]
    rfl

/-- Days follow each other as instants do. -/
theorem day_le_day {s t : Instant} (h : s ≤ t) : s.day ≤ t.day :=
  Int.ediv_le_ediv (by decide) h

/-! ## The start of the day -/

/-- The midnight before an instant is the greatest multiple of a day that is not after it. -/
theorem isGreatest_midnight (t : Instant) :
    IsGreatest {n | millisPerDay ∣ n ∧ n ≤ t.toInt} (t.day * millisPerDay) := by
  constructor
  · exact ⟨Int.dvd_mul_left .., Int.ediv_mul_le _ (by decide)⟩
  · rintro n ⟨⟨days, rfl⟩, hn⟩
    unfold day
    unfold millisPerDay at hn ⊢
    omega

/-- The start of a day is its midnight, or the least instant if midnight is out of range. -/
theorem toInt_startOfDay (t : Instant) :
    t.startOfDay.toInt = max least (t.day * millisPerDay) := by
  have hhigh := t.toInt_le_greatest
  have hmidnight : t.day * millisPerDay ≤ t.toInt := t.isGreatest_midnight.1.2
  unfold greatest at hhigh
  rw [startOfDay, ofMillis, toInt, toInt_clampInt64, min_eq_left (by omega)]
  rfl

/-- No step leaves the range of words on the way to the start of the day. -/
theorem startOfDay?_eq_some (t : Instant) : t.startOfDay? = some t.startOfDay.toInt := by
  have hhigh := t.toInt_le_greatest
  have hmidnight : t.day * millisPerDay ≤ t.toInt := t.isGreatest_midnight.1.2
  rw [startOfDay?, day?_eq_some, toInt_startOfDay]
  refine congrArg some ?_
  rw [saturatingMul]
  by_cases hlow : least ≤ t.day * millisPerDay
  · rw [signed?_eq_some hlow (by omega), max_eq_right hlow]
  · have hout : signed? (t.day * millisPerDay) = none := if_neg fun hword => hlow hword.1
    have hsign : t.day < 0 := by
      unfold least millisPerDay at hlow
      omega
    have hpositive : ¬ millisPerDay < 0 := by decide
    rw [hout, max_eq_left (by omega)]
    simp [hsign, hpositive]

/-- The start of a day is on that day, also where it saturates. -/
theorem day_startOfDay (t : Instant) : t.startOfDay.day = t.day := by
  have hlow := t.least_le_toInt
  rw [day, toInt_startOfDay]
  unfold day
  unfold least millisPerDay at *
  omega

theorem startOfDay_eq_iff {s t : Instant} : s.startOfDay = t.startOfDay ↔ s.day = t.day := by
  constructor
  · intro h
    rw [← day_startOfDay s, h, day_startOfDay t]
  · intro h
    rw [startOfDay, startOfDay, h]

theorem startOfDay_startOfDay (t : Instant) : t.startOfDay.startOfDay = t.startOfDay :=
  startOfDay_eq_iff.mpr t.day_startOfDay

theorem startOfDay_le (t : Instant) : t.startOfDay ≤ t := by
  change t.startOfDay.toInt ≤ t.toInt
  rw [toInt_startOfDay]
  exact max_le t.least_le_toInt t.isGreatest_midnight.1.2

theorem toInt_sub_startOfDay_lt (t : Instant) :
    t.toInt - t.startOfDay.toInt < millisPerDay := by
  rw [toInt_startOfDay]
  unfold day millisPerDay
  omega

/-- The starts of days follow each other as days do. -/
theorem startOfDay_le_startOfDay {s t : Instant} (h : s.day ≤ t.day) :
    s.startOfDay ≤ t.startOfDay := by
  change s.startOfDay.toInt ≤ t.startOfDay.toInt
  rw [toInt_startOfDay, toInt_startOfDay]
  exact max_le_max_left _ (Int.mul_le_mul_of_nonneg_right h (by decide))

/-! ## Dates in order -/

/-- Dates are grouped by the start of the day. Instants without a date are groups of their own. -/
theorem of_date_eq_iff {s t : Instant} :
    GroupValue.of (.instant s) .date = GroupValue.of (.instant t) .date ↔
      s = t ∨ s.inCalendar = true ∧ t.inCalendar = true ∧ s.startOfDay = t.startOfDay := by
  have hdated {u : Instant} (h : u.inCalendar = true) : GroupValue.timeLabel u .date = u.dateText :=
    if_pos ⟨rfl, h⟩
  have hundated {u : Instant} (h : ¬ u.inCalendar = true) :
      GroupValue.timeLabel u .date = toString u.toInt := by
    rw [GroupValue.timeLabel, if_neg fun hdate => h hdate.2, stamp_of_not_inCalendar h]
  constructor
  · intro h
    have hlabel : GroupValue.timeLabel s .date = GroupValue.timeLabel t .date := by
      rw [← label_of_instant rfl, h, label_of_instant rfl]
    -- a date is read back as the start of its day, and a plain number is no date
    have hread := congrArg ofText? hlabel
    by_cases hs : s.inCalendar = true <;> by_cases ht : t.inCalendar = true
    · rw [hdated hs, hdated ht, ofText?_dateText hs, ofText?_dateText ht] at hread
      exact .inr ⟨hs, ht, Option.some.inj hread⟩
    · rw [hdated hs, hundated ht, ofText?_dateText hs, ofText?_toString] at hread
      cases hread
    · rw [hundated hs, hdated ht, ofText?_dateText ht, ofText?_toString] at hread
      cases hread
    · rw [hundated hs, hundated ht] at hlabel
      exact .inl (toInt_inj.mp (Int.repr_injective hlabel))
  · rintro (rfl | ⟨hs, ht, hstart⟩)
    · rfl
    · exact GroupValue.of_eq_of_of_sameDay ⟨rfl, s, t, Option.filter_eq_some_iff.mpr ⟨rfl, hs⟩,
        Option.filter_eq_some_iff.mpr ⟨rfl, ht⟩, startOfDay_eq_iff.mp hstart⟩

/-- What days tell of two instants when they keep their order: the days and their starts are in
order, so is what date filters compare, and all that is between two dates of a group is in it. -/
structure DaysInOrder (s t : Instant) : Prop where
  day_le : s.day ≤ t.day
  startOfDay_le : s.startOfDay ≤ t.startOfDay
  timeKey_le : Filter.timeKey .date s ≤ Filter.timeKey .date t
  of_eq : ∀ u, s ≤ u → u ≤ t →
    GroupValue.of (.instant s) .date = GroupValue.of (.instant t) .date →
      GroupValue.of (.instant u) .date = GroupValue.of (.instant t) .date

/-- Days never reorder instants. -/
theorem daysInOrder_of_le {s t : Instant} (h : s ≤ t) : DaysInOrder s t where
  day_le := day_le_day h
  startOfDay_le := startOfDay_le_startOfDay (day_le_day h)
  timeKey_le := day_le_day h
  of_eq u hsu hut hgroup := by
    rw [of_date_eq_iff] at hgroup ⊢
    rcases hgroup with rfl | ⟨hs, ht, hstart⟩
    · exact .inl (toInt_inj.mp (Int.le_antisymm hut hsu))
    · have hday : u.day = t.day :=
        (day_le_day hut).antisymm ((startOfDay_eq_iff.mp hstart).ge.trans (day_le_day hsu))
      have hu : u.inCalendar = true :=
        decide_eq_true ⟨(of_decide_eq_true hs).1.trans hsu, Int.le_trans hut (of_decide_eq_true ht).2⟩
      exact .inr ⟨hu, ht, startOfDay_eq_iff.mpr hday⟩

/-- **The start of a day is exact, and days keep the order of instants.** No step of finding it
leaves the range of words. It is the greatest multiple of a day that is not after the instant, or
the least instant where that multiple is out of range, and in either case not after the instant, on
the same day, less than a day away, and the start of its own day. -/
theorem startOfDay_exact (t : Instant) :
    t.day? = some t.day ∧ t.startOfDay? = some t.startOfDay.toInt ∧
      (∃ midnight, IsGreatest {n | millisPerDay ∣ n ∧ n ≤ t.toInt} midnight ∧
        t.startOfDay.toInt = if midnight < least then least else midnight) ∧
      t.startOfDay ≤ t ∧ t.startOfDay.day = t.day ∧
      t.toInt - t.startOfDay.toInt < millisPerDay ∧
      t.startOfDay.startOfDay = t.startOfDay ∧
      ∀ s, s ≤ t → DaysInOrder s t := by
  refine ⟨t.day?_eq_some, t.startOfDay?_eq_some, ⟨_, t.isGreatest_midnight, ?_⟩, t.startOfDay_le,
    t.day_startOfDay, t.toInt_sub_startOfDay_lt, t.startOfDay_startOfDay,
    fun s hs => daysInOrder_of_le hs⟩
  rw [toInt_startOfDay]
  split
  case isTrue hout => exact max_eq_left hout.le
  case isFalse hin => exact max_eq_right (Int.not_lt.mp hin)

example : startOfDay ⟨Int64.minValue⟩ = ⟨Int64.minValue⟩ := by decide
example : startOfDay ⟨-1⟩ = ⟨-86400000⟩ := by decide

end Instant

end Tabular
