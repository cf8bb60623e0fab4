/-
Reading a point in time. The reader takes the written form of `ReleaseCatalog.Time.Timestamp` and
is lenient beyond it: numbers may have fewer digits, blanks may stand around the separators, the
date may be followed by a lower-case `t` or one blank, and the time may be given with any offset
of less than a day from universal time, to which it is converted.

A reader takes the characters that are left and answers what it read with those that are left
after it.
-/

import ReleaseCatalog.Text.Blank
import ReleaseCatalog.Time.Timestamp

namespace ReleaseCatalog.Timestamp.Reader

/-- Drops the blanks at the start, then one given character. -/
def separator (char : Char) (input : List Char) : Option (List Char) :=
  match Text.trimStart input with
  | first :: rest => if first == char then some rest else none
  | [] => none

/-- A number of one to `limit` digits, after blanks. -/
def number (limit : Nat) (input : List Char) : Option (Nat × List Char) :=
  match Decimal.span limit (Text.trimStart input) with
  | ([], _) => none
  | (numeral, rest) => some (Decimal.value numeral, rest)

/-- The digits that follow a sign, as many as there are. -/
def signedYear (rest : List Char) : Option (Nat × List Char) :=
  match Decimal.span rest.length rest with
  | ([], _) => none
  | (numeral, rest) => some (Decimal.value numeral, rest)

/-- A year: up to four digits, or a sign and any number of digits. -/
def year (input : List Char) : Option (Int × List Char) :=
  match Text.trimStart input with
  | '-' :: rest => (signedYear rest).map fun (value, rest) => (-(value : Int), rest)
  | '+' :: rest => (signedYear rest).map fun (value, rest) => ((value : Int), rest)
  | bare => (number 4 bare).map fun (value, rest) => ((value : Int), rest)

/-- An optional fraction of a second in nanoseconds; digits past the ninth are dropped. -/
def fraction (input : List Char) : Option (Nat × List Char) :=
  match input with
  | '.' :: rest =>
    match Decimal.span 9 rest with
    | ([], _) => none
    | (numeral, rest) =>
      some (Decimal.value numeral * Nat.pow 10 (9 - numeral.length), rest.dropWhile Decimal.isDigit)
  | rest => some (0, rest)

/-- The two digits of an hour or minute in an offset. -/
def twoDigits (input : List Char) : Option (Nat × List Char) :=
  match input with
  | tens :: units :: rest =>
    if Decimal.isDigit tens && Decimal.isDigit units then
      some (10 * Decimal.digitValue tens + Decimal.digitValue units, rest)
    else none
  | _ => none

/-- The hours and minutes of an offset, in minutes; colons and blanks may stand between them. -/
def offsetMinutes (input : List Char) : Option (Nat × List Char) := do
  let (hours, rest) ← twoDigits input
  let (minutes, rest) ← twoDigits (rest.dropWhile fun char => char == ':' || Text.isBlank char)
  if minutes < 60 then some (60 * hours + minutes, rest) else none

/-- The letters of the name of universal time, in either case. -/
def universalName? (input : List Char) : Option (List Char) :=
  match input with
  | first :: second :: third :: rest =>
    if first.toLower == 'u' && second.toLower == 't' && third.toLower == 'c' then some rest
    else none
  | _ => none

/-- The offset from universal time in minutes: `UTC`, `Z`, or a sign with hours and minutes. -/
def offset (input : List Char) : Option (Int × List Char) :=
  match universalName? input with
  | some rest => some (0, rest)
  | none =>
    match input with
    | sign :: rest =>
      if sign == 'Z' || sign == 'z' then some (0, rest)
      else if sign == '+' then
        (offsetMinutes rest).map fun (minutes, rest) => ((minutes : Int), rest)
      else if sign == '-' || sign == '\u2212' then
        (offsetMinutes rest).map fun (minutes, rest) => (-(minutes : Int), rest)
      else none
    | [] => none

/-- The date and time of day in universal time of a local date and time `ahead` minutes ahead of
it. An offset is less than a day, so that the date moves by at most one day. -/
def toUniversal (date : Calendar.Date) (time : TimeOfDay) (ahead : Int) : Option Timestamp :=
  let minutes : Int := 60 * time.hour + time.minute - ahead
  let within := (minutes % 1440).toNat
  let moved := { time with hour := within / 60, minute := within % 60 }
  if minutes < 0 then of? date.previous moved
  else if 1440 ≤ minutes then of? date.next moved
  else of? date moved

/-- The whole text of a point in time. -/
def read (input : List Char) : Option Timestamp := do
  let (year, rest) ← year input
  let rest ← separator '-' rest
  let (month, rest) ← number 2 rest
  let rest ← separator '-' rest
  let (day, rest) ← number 2 rest
  let rest ← match rest with
    | 'T' :: rest | 't' :: rest | ' ' :: rest => some rest
    | _ => none
  let (hour, rest) ← number 2 rest
  let rest ← separator ':' rest
  let (minute, rest) ← number 2 rest
  let rest ← separator ':' rest
  let (second, rest) ← number 2 rest
  let (nanosecond, rest) ← fraction rest
  let (ahead, rest) ← offset (Text.trimStart rest)
  let date : Calendar.Date := ⟨year, month, day⟩
  let time : TimeOfDay := ⟨hour, minute, second, nanosecond⟩
  if Text.trimStart rest = [] && date.isValid && time.isValid && ahead.natAbs < 1440 then
    toUniversal date time ahead
  else none

end ReleaseCatalog.Timestamp.Reader

/-- Reads a point in time, converting it to universal time. -/
def ReleaseCatalog.Timestamp.read? (text : String) : Option ReleaseCatalog.Timestamp :=
  Reader.read text.toList
