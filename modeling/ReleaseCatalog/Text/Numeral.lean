/-
Numerals with signs and bases, and the whole numbers that fit into 64 bits.
-/

import ReleaseCatalog.Text.Decimal
import ReleaseCatalog.Text.Hexadecimal

namespace ReleaseCatalog.Numeral

/-- The number that one digit or more denote in a base of at most sixteen. -/
def natural? (base : Nat) (numeral : List Char) : Option Nat :=
  if numeral.isEmpty then none else Hexadecimal.value? base numeral

/-- The number that digits after an optional sign denote in a base. -/
def signed? (base : Nat) (numeral : List Char) : Option Int :=
  match numeral with
  | '-' :: rest => (natural? base rest).map fun size => -(size : Int)
  | '+' :: rest => (natural? base rest).map Int.ofNat
  | _ => (natural? base numeral).map Int.ofNat

/-- The first number that does not fit into 64 bits. -/
def limit64 : Nat := 18446744073709551616

/-- The first number that does not fit into 64 bits with a sign. -/
def signedLimit64 : Int := 9223372036854775808

/-- The number that digits after an optional sign denote, if it fits into 64 bits with a sign. -/
def int64? (base : Nat) (numeral : List Char) : Option Int :=
  (signed? base numeral).filter fun number => -signedLimit64 ≤ number && number < signedLimit64

/-- The number that digits after an optional plus sign denote, if it fits into 64 bits. -/
def nat64? (base : Nat) (numeral : List Char) : Option Nat :=
  let size := match numeral with
    | '+' :: rest => natural? base rest
    | _ => natural? base numeral
  size.filter (· < limit64)

/-- The decimal text of a whole number. -/
def text (number : Int) : String :=
  match number with
  | .ofNat size => Decimal.text size
  | .negSucc size => "-" ++ Decimal.text (size + 1)

end ReleaseCatalog.Numeral
