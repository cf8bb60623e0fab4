/-
Numerals inside a longer text. The digits of a number are digits only, they start with a zero only
for zero itself, and there are no more of them than its size allows; so a reader that stops at the
first character that is no digit finds the number again, padded or not.
-/

import Mathlib.Algebra.Group.Nat.Defs
import Mathlib.Data.List.TakeDrop
import ReleaseCatalog.Text.Blank
import ReleaseCatalog.Text.Decimal

namespace ReleaseCatalog.Decimal

theorem isDigit_digitChar {digit : Nat} (small : digit < 10) :
    isDigit (digitChar digit) = true := by
  match digit, small with
  | 0, _ | 1, _ | 2, _ | 3, _ | 4, _ | 5, _ | 6, _ | 7, _ | 8, _ | 9, _ => rfl
  | more + 10, bound => omega

theorem isDigit_of_mem_digits {number : Nat} {char : Char} (member : char ∈ digits number) :
    isDigit char = true := by
  fun_induction digits number with
  | case1 number small =>
    rw [List.mem_singleton.mp member]
    exact isDigit_digitChar small
  | case2 number large inductionHypothesis =>
    rcases List.mem_append.mp member with earlier | last
    · exact inductionHypothesis earlier
    · rw [List.mem_singleton.mp last]
      exact isDigit_digitChar (Nat.mod_lt _ (by decide))

/-- The digits of a number begin with a digit, and with a zero only if that is all. -/
theorem digits_eq_cons (number : Nat) :
    ∃ first rest, digits number = first :: rest ∧ isDigit first = true ∧
      (first = '0' → rest = []) := by
  fun_induction digits number with
  | case1 number small => exact ⟨_, [], rfl, isDigit_digitChar small, fun _ => rfl⟩
  | case2 number large inductionHypothesis =>
    obtain ⟨first, rest, same, digit, zero⟩ := inductionHypothesis
    refine ⟨first, rest ++ [digitChar (number % 10)], by rw [same]; rfl, digit, fun isZero => ?_⟩
    -- A leading zero would make the number without its last digit zero.
    have whole := value_digits (number / 10)
    rw [same, zero isZero, isZero] at whole
    have vanishes : number / 10 = 0 := whole.symm
    omega

theorem length_digits_le {number width : Nat} (positive : 0 < width) (bound : number < 10 ^ width) :
    (digits number).length ≤ width := by
  induction width generalizing number with
  | zero => omega
  | succ width inductionHypothesis =>
    rw [digits]
    split
    · exact positive
    · next large =>
      have fits : number / 10 < 10 ^ width := by
        rw [Nat.pow_succ] at bound
        omega
      have wide : 0 < width := by
        rcases Nat.eq_zero_or_pos width with rfl | wide
        · omega
        · exact wide
      rw [List.length_append, List.length_singleton]
      exact Nat.succ_le_succ (inductionHypothesis wide fits)

/-! ### Padding -/

theorem isDigit_of_mem_padded {width number : Nat} {char : Char}
    (member : char ∈ padded width number) : isDigit char = true := by
  rcases List.mem_append.mp member with zero | digit
  · rw [List.eq_of_mem_replicate zero]
    rfl
  · exact isDigit_of_mem_digits digit

/-- Leading zeros do not change what a numeral denotes. -/
theorem value_padded (width number : Nat) : value (padded width number) = number := by
  have zeros (count : Nat) : value (List.replicate count '0' ++ digits number) = number := by
    induction count with
    | zero => exact value_digits number
    | succ count inductionHypothesis => exact inductionHypothesis
  exact zeros _

theorem length_padded {width number : Nat} (positive : 0 < width) (bound : number < 10 ^ width) :
    (padded width number).length = width := by
  have short := length_digits_le positive bound
  unfold padded
  rw [List.length_append, List.length_replicate]
  omega

theorem padded_ne_nil (width number : Nat) : padded width number ≠ [] := by
  obtain ⟨first, rest, same, -⟩ := digits_eq_cons number
  simp [padded, same]

/-- A numeral begins with a digit. -/
theorem padded_eq_cons (width number : Nat) :
    ∃ first rest, padded width number = first :: rest ∧ isDigit first = true := by
  obtain ⟨first, rest, same⟩ := List.exists_cons_of_ne_nil (padded_ne_nil width number)
  exact ⟨first, rest, same, isDigit_of_mem_padded (same ▸ List.mem_cons_self)⟩

/-! ### Where a numeral ends -/

/-- The text does not go on with a digit. -/
def Stops : List Char → Prop
  | [] => True
  | char :: _ => isDigit char = false

theorem span_eq {numeral rest : List Char} (digit : ∀ char ∈ numeral, isDigit char = true)
    {limit : Nat} (within : numeral.length ≤ limit) (stops : numeral.length = limit ∨ Stops rest) :
    Decimal.span limit (numeral ++ rest) = (numeral, rest) := by
  induction numeral generalizing limit with
  | nil =>
    cases limit with
    | zero => rfl
    | succ limit =>
      have ends : Stops rest := stops.resolve_left (Nat.zero_ne_add_one limit)
      cases rest with
      | nil => rfl
      | cons char rest => simp [Decimal.span, show isDigit char = false from ends]
  | cons first numeral inductionHypothesis =>
    cases limit with
    | zero => cases within
    | succ limit =>
      have later := inductionHypothesis
        (fun char member => digit char (List.mem_cons_of_mem _ member))
        (Nat.le_of_succ_le_succ within) (stops.imp_left Nat.succ.inj)
      simp [Decimal.span, digit first List.mem_cons_self, later]

theorem listSpan_eq {numeral rest : List Char} (digit : ∀ char ∈ numeral, isDigit char = true)
    (stops : Stops rest) : (numeral ++ rest).span isDigit = (numeral, rest) := by
  rw [List.span_eq_takeWhile_dropWhile, List.takeWhile_append_of_pos digit,
    List.dropWhile_append_of_pos digit]
  cases rest with
  | nil => simp
  | cons char rest => simp [show isDigit char = false from stops]

end ReleaseCatalog.Decimal

namespace ReleaseCatalog.Text

/-- A digit is no blank. -/
theorem isBlank_of_isDigit {char : Char} (digit : Decimal.isDigit char = true) :
    isBlank char = false := by
  have bounds : 48 ≤ char.toNat ∧ char.toNat ≤ 57 := by simpa [Decimal.isDigit] using digit
  simp only [isBlank, Bool.or_eq_false_iff, Bool.and_eq_false_iff, decide_eq_false_iff_not,
    beq_eq_false_iff_ne]
  omega

/-- A numeral is not changed by trimming its start. -/
theorem trimStart_padded (width number : Nat) (rest : List Char) :
    trimStart (Decimal.padded width number ++ rest) = Decimal.padded width number ++ rest := by
  obtain ⟨first, others, same, digit⟩ := Decimal.padded_eq_cons width number
  rw [same]
  exact trimStart_of_not_blank _ _ (isBlank_of_isDigit digit)

end ReleaseCatalog.Text
