/-
Spans of time in whole nanoseconds, and their text in the largest unit that fits.
-/

import ReleaseCatalog.Text.Decimal

namespace ReleaseCatalog

/-- A span of time, never negative. -/
structure Duration where
  nanoseconds : Nat
  deriving DecidableEq, Repr, Inhabited

namespace Duration

/-- A span of whole milliseconds. -/
def ofMilliseconds (milliseconds : Nat) : Duration :=
  ⟨milliseconds * 1000000⟩

/-- The fraction `part / 10 ^ places` as written after the whole number: nothing for zero, and
otherwise a point and the places up to the last that is not zero. -/
def fractionText (places part : Nat) : List Char :=
  let shown := ((Decimal.padded places part).reverse.dropWhile (· == '0')).reverse
  if shown.isEmpty then [] else '.' :: shown

/-- The span in units of `10 ^ places` nanoseconds, followed by the name of the unit. -/
def inUnit (places : Nat) (unit : String) (span : Duration) : String :=
  let whole := span.nanoseconds / Nat.pow 10 places
  let part := span.nanoseconds % Nat.pow 10 places
  String.ofList (Decimal.digits whole ++ fractionText places part) ++ unit

/-- The text of a span: the largest unit of which it holds at least one, with the fraction
that is left and no trailing zeros. -/
def text (span : Duration) : String :=
  if 1000000000 ≤ span.nanoseconds then span.inUnit 9 "s"
  else if 1000000 ≤ span.nanoseconds then span.inUnit 6 "ms"
  else if 1000 ≤ span.nanoseconds then span.inUnit 3 "µs"
  else span.inUnit 0 "ns"

end Duration

/-- A point of the running clock: the nanoseconds since it was started. It is apart from the
calendar, which may be set to any time. -/
abbrev Instant := Nat

/-- The instant that lies the given span after another one. -/
def Instant.after (start : Instant) (span : Duration) : Instant :=
  start + span.nanoseconds

end ReleaseCatalog
