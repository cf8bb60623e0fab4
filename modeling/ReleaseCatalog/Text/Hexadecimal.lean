/-
Hexadecimal digits, as escapes and numerals in base sixteen use them.
-/

namespace ReleaseCatalog.Hexadecimal

/-- The value of a hexadecimal digit in either case. -/
def digitValue? (char : Char) : Option Nat :=
  let code := char.toNat
  if 48 ≤ code && code ≤ 57 then some (code - 48)
  else if 97 ≤ code && code ≤ 102 then some (code - 87)
  else if 65 ≤ code && code ≤ 70 then some (code - 55)
  else none

/-- The number that digits denote, in the given base; every digit has to be below the base. -/
def value? (base : Nat) (numeral : List Char) : Option Nat :=
  numeral.foldlM (fun total char => do
    let digit ← digitValue? char
    if digit < base then some (base * total + digit) else none) 0

end ReleaseCatalog.Hexadecimal
