/-
Fractions of double precision. A fraction is written with the fewest digits that read back as the
same number, and never with an exponent.

The digits are found in exact arithmetic. A positive finite fraction is `size * 2 ^ scale` for
whole numbers; from the highest power of ten downwards, the multiples of the power on either side
of it are read back, and the first power of which one reads back as the fraction gives the digits.
-/

import ReleaseCatalog.Text.Numeral

namespace ReleaseCatalog.Fraction

/-- The fraction `mantissa * 10 ^ exponent`. Exponents that only zero or infinity can come of are
cut off first. -/
def ofDecimal (mantissa places : Nat) (exponent : Int) : Float :=
  let reach : Int := 400 + places
  let exponent := max (-reach) (min reach exponent)
  if exponent < 0 then Float.ofScientific mantissa true exponent.natAbs
  else Float.ofScientific mantissa false exponent.natAbs

/-- The exponent after its letter. -/
def exponent? : List Char → Option Int
  | [] => some 0
  | letter :: rest =>
    if letter == 'e' || letter == 'E' then Numeral.signed? 10 rest else none

/-- A fraction without its sign: digits with at most one point among them, and an exponent. -/
def unsigned? (input : List Char) : Option Float :=
  let whole := input.takeWhile Decimal.isDigit
  let (places, rest) := match input.dropWhile Decimal.isDigit with
    | '.' :: rest => (rest.takeWhile Decimal.isDigit, rest.dropWhile Decimal.isDigit)
    | rest => ([], rest)
  if whole.isEmpty && places.isEmpty then none
  else (exponent? rest).map fun exponent =>
    ofDecimal (Decimal.value (whole ++ places)) (whole.length + places.length)
      (exponent - places.length)

/-- The words for fractions that have no digits. -/
def word? (input : List Char) : Option Float :=
  let word := String.ofList (input.map Char.toLower)
  if word == "inf" || word == "infinity" then some (1.0 / 0.0)
  else if word == "nan" then some (0.0 / 0.0)
  else none

/-- The fraction that a text denotes. -/
def read? (input : List Char) : Option Float :=
  let size (input : List Char) := (unsigned? input).or (word? input)
  match input with
  | '-' :: rest => (size rest).map fun value => -value
  | '+' :: rest => size rest
  | _ => size input

/-- The first number that does not fit into the fraction field of a double. -/
def hiddenBit : Nat := 4503599627370496

/-- The number of values of the exponent field of a double. -/
def exponents : Nat := 2048

/-- A positive finite fraction as `size * 2 ^ scale`. -/
def decode (value : Float) : Nat × Int :=
  let bits := value.toBits.toNat
  let exponent := bits / hiddenBit % exponents
  let mantissa := bits % hiddenBit
  if exponent == 0 then (mantissa, -1074) else (mantissa + hiddenBit, (exponent : Int) - 1075)

/-- The whole part of `size * 2 ^ scale / 10 ^ power`, and twice the rest beside the divisor. -/
def quotient (size : Nat) (scale power : Int) : Nat × Ordering :=
  let above := size * Nat.pow 2 scale.toNat * Nat.pow 10 (-power).toNat
  let below := Nat.pow 2 (-scale).toNat * Nat.pow 10 power.toNat
  (above / below, compare (2 * (above % below)) below)

/-- The number with the given count of digits that is nearest to a positive finite fraction, if it
reads back as the same one, with the power of ten that it is to be taken by. -/
def nearest? (value : Float) (power : Int) : Option (Nat × Int) :=
  let (size, scale) := decode value
  let (whole, rest) := quotient size scale power
  let rounded := match rest with
    | .lt => whole
    | .gt => whole + 1
    | .eq => whole + whole % 2
  let candidates := [rounded, whole, whole + 1]
  (candidates.find? fun candidate => (ofDecimal candidate 20 power).toBits == value.toBits).map
    (·, power)

/-- The first power of ten, from a given one downwards, at which digits of the fraction read
back. -/
def shortest (value : Float) : Nat → Int → Nat × Int
  | 0, power => (0, power)
  | fuel + 1, power => (nearest? value power).getD (shortest value fuel (power - 1))

/-- The digits of a number times a power of ten, without an exponent. -/
def positional (number : Nat) (power : Int) : String :=
  let digits := Decimal.digits number
  if 0 ≤ power then String.ofList (digits ++ List.replicate power.toNat '0')
  else
    let places := power.natAbs
    let digits := List.replicate (places + 1 - digits.length) '0' ++ digits
    let whole := digits.take (digits.length - places)
    String.ofList (whole ++ '.' :: digits.drop (digits.length - places))

/-- The text of a fraction. -/
def text (value : Float) : String :=
  if value.isNaN then "NaN"
  else
    let sign := if value.toBits.toNat / (hiddenBit * exponents) == 1 then "-" else ""
    let size := value.abs
    if size.isInf then sign ++ "inf"
    else if size == 0.0 then sign ++ "0"
    else
      let (number, power) := shortest size 700 309
      sign ++ positional number power

/-- The nearest number below 2^64, from zero up; a half goes up, and what is no number is zero. -/
def toNat (value : Float) : Nat :=
  value.round.toUInt64.toNat

end ReleaseCatalog.Fraction
