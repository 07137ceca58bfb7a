/-!
# The calendar

The proleptic Gregorian calendar. `Date.dayNumber` counts days from the first of January 1970 and
`Date.ofDayNumber` finds the date of a day. Both count years from March, so that the leap day comes
last, and group them into eras of four hundred years, which repeat exactly.
-/

namespace Tabular

/-- A day of the proleptic Gregorian calendar. Year zero is the year before year one. -/
structure Date where
  year : Int
  month : Nat
  day : Nat
deriving DecidableEq, Repr

namespace Date

def isLeapYear (year : Int) : Bool := year % 4 == 0 && (year % 100 != 0 || year % 400 == 0)

def daysInMonth (year : Int) (month : Nat) : Nat :=
  if month = 2 then (if isLeapYear year then 29 else 28)
  else if month = 4 ∨ month = 6 ∨ month = 9 ∨ month = 11 then 30
  else 31

/-- The least year of a date that can be read. -/
def minYear : Int := -262143

/-- The greatest year of a date that can be read. -/
def maxYear : Int := 262142

/-- A day that the calendar has, in a year that can be read. -/
def isValid (d : Date) : Bool :=
  decide (minYear ≤ d.year ∧ d.year ≤ maxYear ∧ 1 ≤ d.month ∧ d.month ≤ 12 ∧ 1 ≤ d.day
    ∧ d.day ≤ daysInMonth d.year d.month)

/-- The days of an era of four hundred years. -/
def daysPerEra : Int := 146097

/-- The number of the first of March of year zero, counted back from 1970. -/
def epochOffset : Int := 719468

/-- Days from the first of January 1970. -/
def dayNumber (d : Date) : Int :=
  let year := if d.month ≤ 2 then d.year - 1 else d.year
  let yearOfEra := year % 400
  let marchMonth : Int := (d.month + 9 : Nat) % 12
  let dayOfYear := (153 * marchMonth + 2) / 5 + d.day - 1
  let dayOfEra := yearOfEra * 365 + yearOfEra / 4 - yearOfEra / 100 + dayOfYear
  year / 400 * daysPerEra + dayOfEra - epochOffset

/-- The date of a day counted from the first of January 1970. -/
def ofDayNumber (n : Int) : Date :=
  let shifted := n + epochOffset
  let dayOfEra := shifted % daysPerEra
  let yearOfEra := (dayOfEra - dayOfEra / 1460 + dayOfEra / 36524 - dayOfEra / 146096) / 365
  let dayOfYear := dayOfEra - (365 * yearOfEra + yearOfEra / 4 - yearOfEra / 100)
  let marchMonth := (5 * dayOfYear + 2) / 153
  let day := dayOfYear - (153 * marchMonth + 2) / 5 + 1
  let month := if marchMonth < 10 then marchMonth + 3 else marchMonth - 9
  let year := yearOfEra + shifted / daysPerEra * 400
  ⟨if month ≤ 2 then year + 1 else year, month.toNat, day.toNat⟩

example : dayNumber ⟨1970, 1, 1⟩ = 0 := by decide
example : dayNumber ⟨2000, 2, 29⟩ = 11016 := by decide
example : ofDayNumber (-1) = ⟨1969, 12, 31⟩ := by decide
example : ofDayNumber 11016 = ⟨2000, 2, 29⟩ := by decide
example : ofDayNumber (-719528) = ⟨0, 1, 1⟩ := by decide

end Date

end Tabular
