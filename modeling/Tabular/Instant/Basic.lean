import Tabular.Calendar
/-!
# Instants

A point in time is a signed 64-bit count of milliseconds from the start of 1970, universal time.
Days are found by floor division, so instants before 1970 belong to the day they fall on. The start
of a day saturates at the least instant, the only day whose midnight is out of range.
-/

namespace Tabular

/-- A point in time: milliseconds from the start of 1970, universal time. -/
structure Instant where
  millis : Int64
deriving DecidableEq

/-- The 64-bit integer nearest to `n`. -/
def clampInt64 (n : Int) : Int64 :=
  Int64.ofInt (max (-0x8000000000000000) (min n 0x7FFFFFFFFFFFFFFF))

theorem toInt_clampInt64 (n : Int) :
    (clampInt64 n).toInt = max (-0x8000000000000000) (min n 0x7FFFFFFFFFFFFFFF) :=
  Int64.toInt_ofInt_of_le (by omega) (by omega)

namespace Instant

def millisPerDay : Int := 86400000

/-- The milliseconds as an integer. -/
def toInt (t : Instant) : Int := t.millis.toInt

/-- The instant nearest to a count of milliseconds. -/
def ofMillis (n : Int) : Instant := ⟨clampInt64 n⟩

/-- The instant of a count of seconds, saturating at the ends of the range. -/
def ofSeconds (n : Int64) : Instant := ofMillis (n.toInt * 1000)

/-- Whole seconds, rounded down. -/
def seconds (t : Instant) : Int := t.toInt / 1000

/-- Whole days, rounded down. -/
def day (t : Instant) : Int := t.toInt / millisPerDay

/-- Midnight of the same day. -/
def startOfDay (t : Instant) : Instant := ofMillis (t.day * millisPerDay)

/-- Milliseconds since midnight. -/
def millisOfDay (t : Instant) : Int := t.toInt % millisPerDay

/-- The first instant of the calendar's range. -/
def minCalendar : Int := -8334601228800000

/-- The last instant of the calendar's range. -/
def maxCalendar : Int := 8210266876799999

/-- Whether the calendar has a date for the instant. -/
def inCalendar (t : Instant) : Bool := decide (minCalendar ≤ t.toInt ∧ t.toInt ≤ maxCalendar)

/-- The date of the instant's day. -/
def date (t : Instant) : Date := Date.ofDayNumber t.day

/-- Midnight of a date. -/
def ofDate (d : Date) : Instant := ofMillis (d.dayNumber * millisPerDay)

/-- A time of day on a date. Second 60 is the second after second 59. -/
def ofDateTime (d : Date) (hour minute second milli : Int) : Instant :=
  ofMillis (d.dayNumber * millisPerDay + (hour * 3600 + minute * 60 + second) * 1000 + milli)

instance : LE Instant := ⟨fun s t => s.toInt ≤ t.toInt⟩

end Instant

end Tabular
