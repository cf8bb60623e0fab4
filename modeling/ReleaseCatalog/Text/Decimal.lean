/-
Decimal numerals: the digits of a natural number, and the number that a run of digits denotes.
Version numbers, times and JSON numbers are all written and read through these two functions,
which undo each other (`value_digits`).
-/

namespace ReleaseCatalog.Decimal

/-- The numeral for a number below ten. -/
def digitChar (digit : Nat) : Char :=
  Char.ofNat (48 + digit)

/-- Whether the character is one of the ten ASCII digits. -/
def isDigit (char : Char) : Bool :=
  48 ≤ char.toNat && char.toNat ≤ 57

/-- The number that one ASCII digit stands for. -/
def digitValue (char : Char) : Nat :=
  char.toNat - 48

/-- The decimal digits of a number, the most significant first and without leading zeros. -/
def digits (number : Nat) : List Char :=
  if number < 10 then [digitChar number]
  else digits (number / 10) ++ [digitChar (number % 10)]
termination_by number

/-- The number that a run of digits denotes; leading zeros do not change it. -/
def value (numeral : List Char) : Nat :=
  numeral.foldl (fun total char => 10 * total + digitValue char) 0

/-- The decimal text of a number. -/
def text (number : Nat) : String :=
  String.ofList (digits number)

/-- The digits of a number, padded with zeros on the left up to the given width. -/
def padded (width number : Nat) : List Char :=
  let numeral := digits number
  List.replicate (width - numeral.length) '0' ++ numeral

/-- Splits off the leading digits of a text, at most `limit` of them. -/
def span (limit : Nat) (input : List Char) : List Char × List Char :=
  match limit, input with
  | 0, rest => ([], rest)
  | _, [] => ([], [])
  | limit + 1, char :: rest =>
    if isDigit char then
      let (numeral, rest) := span limit rest
      (char :: numeral, rest)
    else ([], char :: rest)

theorem digitValue_digitChar (digit : Nat) (small : digit < 10) :
    digitValue (digitChar digit) = digit := by
  match digit, small with
  | 0, _ | 1, _ | 2, _ | 3, _ | 4, _ | 5, _ | 6, _ | 7, _ | 8, _ | 9, _ => rfl
  | n + 10, h => omega

/-- A digit appended on the right is the new last place. -/
theorem value_append_singleton (numeral : List Char) (char : Char) :
    value (numeral ++ [char]) = 10 * value numeral + digitValue char := by
  simp [value]

/-- Reading the digits of a number gives the number back. -/
theorem value_digits (number : Nat) : value (digits number) = number := by
  fun_induction digits number with
  | case1 number small => simp [value, digitValue_digitChar number small]
  | case2 number large ih =>
    rw [value_append_singleton, ih, digitValue_digitChar _ (Nat.mod_lt _ (by omega))]
    omega

end ReleaseCatalog.Decimal
