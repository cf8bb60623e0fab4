/-
Points in time by their distance from the start of 1970, which is how clocks count.
-/

import ReleaseCatalog.Time.Timestamp

namespace ReleaseCatalog.Timestamp

/-- The day from which clocks count. -/
def epoch : Calendar.Date := ⟨1970, 1, 1⟩

/-- The date a number of days after another one. -/
def daysAfter (date : Calendar.Date) : Nat → Calendar.Date
  | 0 => date
  | days + 1 => daysAfter date.next days

/-- The time of day that a number of nanoseconds is after midnight. -/
def timeOfDay (nanoseconds : Nat) : TimeOfDay :=
  let seconds := nanoseconds / 1000000000
  ⟨seconds / 3600, seconds / 60 % 60, seconds % 60, nanoseconds % 1000000000⟩

/-- The point in time that a number of nanoseconds is after the start of 1970. -/
def sinceEpoch? (nanoseconds : Nat) : Option Timestamp :=
  let day := 86400 * 1000000000
  of? (daysAfter epoch (nanoseconds / day)) (timeOfDay (nanoseconds % day))

end ReleaseCatalog.Timestamp
