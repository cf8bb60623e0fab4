/-
The written form of a point in time is read back as the same point in time. The reader takes the
parts one after another, each of which ends where its number has all its digits.
-/

import ReleaseCatalog.Proofs.Text.Numerals
import ReleaseCatalog.Time.Reader

namespace ReleaseCatalog.Timestamp

namespace Reader

/-- A number that is written with as many digits as may be read is read back. -/
theorem number_padded {width value : Nat} (positive : 0 < width) (bound : value < 10 ^ width)
    (rest : List Char) :
    number width (Decimal.padded width value ++ rest) = some (value, rest) := by
  have length := Decimal.length_padded positive bound
  obtain ⟨first, others, same, -⟩ := Decimal.padded_eq_cons width value
  unfold number
  rw [Text.trimStart_padded, Decimal.span_eq (fun _ => Decimal.isDigit_of_mem_padded)
    (Nat.le_of_eq length) (.inl length), same]
  show some (Decimal.value (first :: others), rest) = _
  rw [← same, Decimal.value_padded]

/-- A year after a sign is read back, however many digits it has. -/
theorem signedYear_padded (width value : Nat) {rest : List Char} (stops : Decimal.Stops rest) :
    signedYear (Decimal.padded width value ++ rest) = some (value, rest) := by
  have short : (Decimal.padded width value).length ≤
      (Decimal.padded width value ++ rest).length := by
    rw [List.length_append]
    omega
  obtain ⟨first, others, same, -⟩ := Decimal.padded_eq_cons width value
  unfold signedYear
  rw [Decimal.span_eq (fun _ => Decimal.isDigit_of_mem_padded) short (.inr stops), same]
  show some (Decimal.value (first :: others), rest) = _
  rw [← same, Decimal.value_padded]

/-- A year of four digits is read without a sign. -/
theorem year_padded {value : Nat} (bound : value < 10 ^ 4) (rest : List Char) :
    year (Decimal.padded 4 value ++ rest) = some ((value : Int), rest) := by
  obtain ⟨first, others, same, digit⟩ := Decimal.padded_eq_cons 4 value
  have read := number_padded (by decide) bound rest
  have trimmed := Text.trimStart_padded 4 value rest
  rw [same] at read trimmed ⊢
  unfold year
  rw [trimmed]
  split
  · next minus =>
    obtain ⟨rfl, -⟩ := List.cons.inj minus
    cases digit
  · next plus =>
    obtain ⟨rfl, -⟩ := List.cons.inj plus
    cases digit
  · rw [read]
    rfl

/-- A year is read back, with or without a sign. -/
theorem year_yearText (value : Int) {rest : List Char} (stops : Decimal.Stops rest) :
    year (yearText value ++ rest) = some (value, rest) := by
  unfold yearText
  split
  · next bare =>
    have bounds : 0 ≤ value ∧ value ≤ 9999 := by simpa using bare
    have whole : (value.toNat : Int) = value := Int.toNat_of_nonneg bounds.1
    rw [year_padded (by omega), whole]
  · have read := signedYear_padded 4 value.natAbs stops
    by_cases negative : value < 0
    · have whole : -(value.natAbs : Int) = value := by omega
      rw [if_pos negative]
      show (signedYear (Decimal.padded 4 value.natAbs ++ rest)).map _ = _
      rw [read]
      exact congrArg (fun year => some (year, rest)) whole
    · have whole : (value.natAbs : Int) = value := by omega
      rw [if_neg negative]
      show (signedYear (Decimal.padded 4 value.natAbs ++ rest)).map _ = _
      rw [read]
      exact congrArg (fun year => some (year, rest)) whole

/-- A fraction with as many places as make it exact is read back. -/
theorem fraction_padded {places nanosecond : Nat} (positive : 0 < places) (few : places ≤ 9)
    (whole : nanosecond % 10 ^ (9 - places) = 0)
    (bound : nanosecond / 10 ^ (9 - places) < 10 ^ places) :
    fraction ('.' :: (Decimal.padded places (nanosecond / 10 ^ (9 - places)) ++ ['Z'])) =
      some (nanosecond, ['Z']) := by
  have length := Decimal.length_padded positive bound
  have ends : Decimal.Stops ['Z'] := rfl
  have split := Decimal.span_eq (fun _ => Decimal.isDigit_of_mem_padded)
    (Nat.le_trans (Nat.le_of_eq length) few) (.inr ends)
  obtain ⟨first, others, same, -⟩ :=
    Decimal.padded_eq_cons places (nanosecond / 10 ^ (9 - places))
  unfold fraction
  simp only [split]
  rw [same]
  show some (Decimal.value (first :: others) * Nat.pow 10 (9 - (first :: others).length), ['Z']) = _
  rw [← same, Decimal.value_padded, length]
  have restored : nanosecond / 10 ^ (9 - places) * 10 ^ (9 - places) = nanosecond :=
    Nat.div_mul_cancel (Nat.dvd_of_mod_eq_zero whole)
  exact congrArg (fun value => some (value, ['Z'])) restored

/-- The fraction of a second is read back, whatever number of places it has. -/
theorem fraction_fractionText {nanosecond : Nat} (bound : nanosecond < 1000000000) :
    fraction (fractionText nanosecond ++ ['Z']) = some (nanosecond, ['Z']) := by
  unfold fractionText
  split
  · next zero =>
    rw [eq_of_beq zero]
    rfl
  · split
    · next whole =>
      have few : nanosecond / 10 ^ (9 - 3) < 10 ^ 3 := by omega
      exact fraction_padded (by decide) (by decide) (eq_of_beq whole) few
    · split
      · next whole =>
        have few : nanosecond / 10 ^ (9 - 6) < 10 ^ 6 := by omega
        exact fraction_padded (by decide) (by decide) (eq_of_beq whole) few
      · have read := fraction_padded (by decide) (by decide) (Nat.mod_one nanosecond)
          (show nanosecond / 10 ^ (9 - 9) < 10 ^ 9 by omega)
        rwa [show nanosecond / 10 ^ (9 - 9) = nanosecond from Nat.div_one nanosecond] at read

/-- Universal time is not ahead of itself. -/
theorem toUniversal_zero (date : Calendar.Date) {time : TimeOfDay} (valid : time.isValid = true) :
    toUniversal date time 0 = of? date time := by
  have bounds : ((time.hour < 24 ∧ time.minute < 60) ∧ time.second ≤ 60) ∧
      time.nanosecond < 1000000000 := by
    simpa [TimeOfDay.isValid] using valid
  have within : ((60 * (time.hour : Int) + time.minute - 0) % 1440).toNat =
      60 * time.hour + time.minute := by omega
  have hour : (60 * time.hour + time.minute) / 60 = time.hour := by omega
  have minute : (60 * time.hour + time.minute) % 60 = time.minute := by omega
  unfold toUniversal
  simp only [within, hour, minute]
  rw [if_neg (by omega), if_neg (by omega)]

end Reader

/-- A point in time is read back from its written form. -/
theorem read?_text (stamp : Timestamp) : read? stamp.text = some stamp := by
  obtain ⟨⟨year, month, day⟩, ⟨hour, minute, second, nanosecond⟩, valid⟩ := stamp
  obtain ⟨date, time⟩ := (Bool.and_eq_true ..).mp valid
  have days : day ≤ Calendar.daysInMonth year month ∧ 1 ≤ day := by
    simp [Calendar.Date.isValid] at date
    omega
  have few : day < 10 ^ 2 ∧ month < 10 ^ 2 := by
    unfold Calendar.daysInMonth at days
    split at days <;> first | omega | (split at days <;> omega)
  have times : hour < 10 ^ 2 ∧ minute < 10 ^ 2 ∧ second < 10 ^ 2 ∧ nanosecond < 1000000000 := by
    simp [TimeOfDay.isValid] at time
    omega
  have stamped : Reader.toUniversal ⟨year, month, day⟩ ⟨hour, minute, second, nanosecond⟩ 0 =
      some ⟨⟨year, month, day⟩, ⟨hour, minute, second, nanosecond⟩, valid⟩ := by
    rw [Reader.toUniversal_zero _ time, of?, dif_pos valid]
  have dash (rest : List Char) : Reader.separator '-' ('-' :: rest) = some rest := rfl
  have colon (rest : List Char) : Reader.separator ':' (':' :: rest) = some rest := rfl
  unfold read? text Reader.read chars
  rw [String.toList_ofList]
  simp only [List.append_assoc, List.cons_append]
  -- The parts are read from the front, and each leaves the parts behind it.
  refine Option.bind_eq_some_iff.mpr ⟨_, Reader.year_yearText year rfl, ?_⟩
  refine Option.bind_eq_some_iff.mpr ⟨_, dash _, ?_⟩
  refine Option.bind_eq_some_iff.mpr ⟨_, Reader.number_padded (by decide) few.2 _, ?_⟩
  refine Option.bind_eq_some_iff.mpr ⟨_, dash _, ?_⟩
  refine Option.bind_eq_some_iff.mpr ⟨_, Reader.number_padded (by decide) few.1 _, ?_⟩
  refine Option.bind_eq_some_iff.mpr ⟨_, rfl, ?_⟩
  refine Option.bind_eq_some_iff.mpr ⟨_, Reader.number_padded (by decide) times.1 _, ?_⟩
  refine Option.bind_eq_some_iff.mpr ⟨_, colon _, ?_⟩
  refine Option.bind_eq_some_iff.mpr ⟨_, Reader.number_padded (by decide) times.2.1 _, ?_⟩
  refine Option.bind_eq_some_iff.mpr ⟨_, colon _, ?_⟩
  refine Option.bind_eq_some_iff.mpr ⟨_, Reader.number_padded (by decide) times.2.2.1 _, ?_⟩
  refine Option.bind_eq_some_iff.mpr ⟨_, Reader.fraction_fractionText times.2.2.2, ?_⟩
  refine Option.bind_eq_some_iff.mpr ⟨(0, []), rfl, ?_⟩
  simp only [date, time]
  exact stamped

end ReleaseCatalog.Timestamp
