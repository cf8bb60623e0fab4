/-
Points in time on the calendar in universal time, to the nanosecond, and their one written form.
A leap second is the second with the number 60. The reader of this and of wider forms is in
`ReleaseCatalog.Time.Reader`.
-/

import ReleaseCatalog.Text.Decimal

namespace ReleaseCatalog

namespace Calendar

/-- Every fourth year is a leap year, except the centuries that four hundred does not divide. -/
def isLeapYear (year : Int) : Bool :=
  year % 4 == 0 && (year % 100 != 0 || year % 400 == 0)

/-- The number of days of a month; a month that does not exist has none. -/
def daysInMonth (year : Int) (month : Nat) : Nat :=
  match month with
  | 1 | 3 | 5 | 7 | 8 | 10 | 12 => 31
  | 4 | 6 | 9 | 11 => 30
  | 2 => if isLeapYear year then 29 else 28
  | _ => 0

/-- The first year that a time can fall in. -/
def firstYear : Int := -262143

/-- The last year that a time can fall in. -/
def lastYear : Int := 262142

/-- A day of the calendar. -/
structure Date where
  year : Int
  month : Nat
  day : Nat
  deriving DecidableEq, Repr

/-- The date exists and its year is one that a time can fall in. -/
def Date.isValid (date : Date) : Bool :=
  firstYear ≤ date.year && date.year ≤ lastYear &&
  1 ≤ date.day && date.day ≤ daysInMonth date.year date.month

/-- The day after a date. -/
def Date.next (date : Date) : Date :=
  if date.day < daysInMonth date.year date.month then { date with day := date.day + 1 }
  else if date.month < 12 then { date with month := date.month + 1, day := 1 }
  else ⟨date.year + 1, 1, 1⟩

/-- The day before a date. -/
def Date.previous (date : Date) : Date :=
  if 1 < date.day then { date with day := date.day - 1 }
  else if 1 < date.month then
    { date with month := date.month - 1, day := daysInMonth date.year (date.month - 1) }
  else ⟨date.year - 1, 12, 31⟩

end Calendar

/-- A time of day; the second 60 is a leap second. -/
structure TimeOfDay where
  hour : Nat
  minute : Nat
  second : Nat
  nanosecond : Nat
  deriving DecidableEq, Repr

/-- The time occurs on a day. -/
def TimeOfDay.isValid (time : TimeOfDay) : Bool :=
  time.hour < 24 && time.minute < 60 && time.second ≤ 60 && time.nanosecond < 1000000000

/-- A point in time, given by date and time of day in universal time. -/
structure Timestamp where
  date : Calendar.Date
  time : TimeOfDay
  valid : (date.isValid && time.isValid) = true
  deriving DecidableEq, Repr

namespace Timestamp

/-- The point in time with this date and time of day, if there is one. -/
def of? (date : Calendar.Date) (time : TimeOfDay) : Option Timestamp :=
  if valid : (date.isValid && time.isValid) = true then some ⟨date, time, valid⟩ else none

/-- Half past nine on the seventeenth of January 2024. -/
def sample : Timestamp :=
  ⟨⟨2024, 1, 17⟩, ⟨9, 30, 0, 0⟩, by decide⟩

instance : Inhabited Timestamp := ⟨sample⟩

/-- A year of four digits is written bare; any other carries its sign and at least four digits. -/
def yearText (year : Int) : List Char :=
  if 0 ≤ year && year ≤ 9999 then Decimal.padded 4 year.toNat
  else (if year < 0 then '-' else '+') :: Decimal.padded 4 year.natAbs

/-- The fraction of a second: nothing for zero, and otherwise the fewest of three, six or nine
places that are exact. -/
def fractionText (nanosecond : Nat) : List Char :=
  if nanosecond == 0 then []
  else if nanosecond % 1000000 == 0 then '.' :: Decimal.padded 3 (nanosecond / 1000000)
  else if nanosecond % 1000 == 0 then '.' :: Decimal.padded 6 (nanosecond / 1000)
  else '.' :: Decimal.padded 9 nanosecond

/-- The written form of a point in time, as characters. -/
def chars (stamp : Timestamp) : List Char :=
  yearText stamp.date.year ++ '-' :: Decimal.padded 2 stamp.date.month ++
  '-' :: Decimal.padded 2 stamp.date.day ++ 'T' :: Decimal.padded 2 stamp.time.hour ++
  ':' :: Decimal.padded 2 stamp.time.minute ++ ':' :: Decimal.padded 2 stamp.time.second ++
  fractionText stamp.time.nanosecond ++ ['Z']

/-- The written form of a point in time. -/
def text (stamp : Timestamp) : String :=
  String.ofList stamp.chars

end Timestamp

end ReleaseCatalog
