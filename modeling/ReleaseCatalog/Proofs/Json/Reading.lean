/-
The compact text of a value is read back as the same value. The reader is given a text that goes on
after the value, as it does inside arrays and objects; what matters then is that a value never
begins like a blank or a closing bracket, and that the character after a number is no part of one.
-/

import ReleaseCatalog.Json.Parser
import ReleaseCatalog.Json.Printer
import ReleaseCatalog.Proofs.Text.Numerals

namespace ReleaseCatalog.Json

/-! ### Strings -/

theorem digitValue?_hexDigit {value : Nat} (small : value < 16) :
    Hexadecimal.digitValue? (hexDigit value) = some value := by
  match value, small with
  | 0, _ | 1, _ | 2, _ | 3, _ | 4, _ | 5, _ | 6, _ | 7, _ | 8, _ | 9, _ | 10, _ | 11, _ | 12, _
  | 13, _ | 14, _ | 15, _ => rfl
  | more + 16, bound => omega

/-- The four digits of an escape denote the number of a control character. -/
theorem value?_hexDigits {code : Nat} (control : code < 0x20) :
    Hexadecimal.value? 16 ['0', '0', hexDigit (code / 16), hexDigit (code % 16)] = some code := by
  have high := digitValue?_hexDigit (show code / 16 < 16 by omega)
  have low := digitValue?_hexDigit (show code % 16 < 16 by omega)
  have zero : Hexadecimal.digitValue? '0' = some 0 := rfl
  have whole : 16 * (code / 16) + code % 16 = code := Nat.div_add_mod code 16
  simp [Hexadecimal.value?, zero, high, low, show code / 16 < 16 by omega,
    show code % 16 < 16 by omega, whole]

/-- A character that needs no escape stands for itself. -/
theorem units?_cons {char : Char} (visible : ¬char.toNat < 0x20) (quote : char ≠ '"')
    (backslash : char ≠ '\\') (rest : List Char) :
    units? (char :: rest) =
      (units? rest).map fun (units, rest) => (.char char :: units, rest) := by
  rw [units?]
  · rw [if_neg (by simp [visible, backslash])]
  · exact quote
  · exact fun _ _ _ _ _ same => absurd same backslash
  · exact fun _ _ same => absurd same backslash

/-- An escape is read back as the character that it stands for. -/
theorem units?_escape (char : Char) (rest : List Char) :
    units? (escape char ++ rest) =
      (units? rest).map fun (units, rest) => (.char char :: units, rest) := by
  unfold escape
  split
  case h_8 quote backslash _ _ _ _ _ =>
    split
    · next control =>
      have own : Unit.ofCode char.toNat = .char char := by
        unfold Unit.ofCode
        rw [if_neg (by simp; omega), Char.ofNat_toNat]
      simp only [List.cons_append, List.nil_append, units?, value?_hexDigits control, own]
    · next visible => exact units?_cons visible quote backslash rest
  all_goals rfl

theorem units?_escaped (text rest : List Char) :
    units? (escaped text ('"' :: rest)) = some (text.map .char, rest) := by
  induction text with
  | nil => rfl
  | cons char text inductionHypothesis =>
    show units? (escape char ++ escaped text ('"' :: rest)) = _
    rw [units?_escape, inductionHypothesis]
    rfl

theorem join?_map_char (text : List Char) : join? (text.map .char) = some text := by
  induction text with
  | nil => rfl
  | cons char text inductionHypothesis =>
    show (join? (text.map .char)).map (char :: ·) = _
    rw [inductionHypothesis]
    rfl

/-- The text of a string literal is read back. -/
theorem stringBody?_escaped (text : String) (rest : List Char) :
    stringBody? (escaped text.toList ('"' :: rest)) = some (some text, rest) := by
  simp only [stringBody?, units?_escaped, join?_map_char, Option.map_some, String.ofList_toList]

/-! ### Numbers -/

/-- What can stand after a value: nothing, a comma, or a closing bracket. -/
def Closes : List Char → Prop
  | [] => True
  | char :: _ => char = ',' ∨ char = ']' ∨ char = '}'

theorem closes_comma (rest : List Char) : Closes (',' :: rest) := .inl rfl

theorem closes_bracket (rest : List Char) : Closes (']' :: rest) := .inr (.inl rfl)

theorem closes_brace (rest : List Char) : Closes ('}' :: rest) := .inr (.inr rfl)

theorem Closes.stops {rest : List Char} (closes : Closes rest) : Decimal.Stops rest := by
  cases rest with
  | nil => trivial
  | cons char rest => rcases closes with rfl | rfl | rfl <;> rfl

theorem Closes.fractionPart? {rest : List Char} (closes : Closes rest) :
    fractionPart? rest = some ([], rest) := by
  cases rest with
  | nil => rfl
  | cons char rest => rcases closes with rfl | rfl | rfl <;> rfl

theorem Closes.exponentPart? {rest : List Char} (closes : Closes rest) :
    exponentPart? rest = some ([], rest) := by
  cases rest with
  | nil => rfl
  | cons char rest => rcases closes with rfl | rfl | rfl <;> rfl

theorem wholePart?_digits (number : Nat) {rest : List Char} (stops : Decimal.Stops rest) :
    wholePart? (Decimal.digits number ++ rest) = some (Decimal.digits number, rest) := by
  obtain ⟨first, others, same, -, alone⟩ := Decimal.digits_eq_cons number
  have digit : ∀ char ∈ first :: others, Decimal.isDigit char = true :=
    same ▸ fun _ => Decimal.isDigit_of_mem_digits
  rw [same]
  by_cases zero : first = '0'
  · rw [alone zero, zero]
    cases rest with
    | nil => rfl
    | cons char rest =>
      have ends : Decimal.isDigit char = false := stops
      show (if Decimal.isDigit char then none else some (['0'], char :: rest)) = _
      rw [ends]
      rfl
  · have span := Decimal.listSpan_eq digit stops
    rw [List.cons_append] at span ⊢
    rw [wholePart?]
    · unfold digits?
      rw [span]
    · exact fun _ same => zero (List.cons.inj same).1

/-- The digits of a number are read back. -/
theorem unsigned?_digits (number : Nat) {rest : List Char} (closes : Closes rest) :
    unsigned? (Decimal.digits number ++ rest) = some (Decimal.digits number, rest) := by
  simp [unsigned?, wholePart?_digits number closes.stops, closes.fractionPart?,
    closes.exponentPart?]

theorem write_ofNat (number : Nat) (rest : List Char) :
    (ofNat number).write rest = Decimal.digits number ++ rest := by
  show (Decimal.text number).toList ++ rest = _
  rw [Decimal.text, String.toList_ofList]

theorem isSpace_of_isDigit {char : Char} (digit : Decimal.isDigit char = true) :
    isSpace char = false := by
  simp only [isSpace, Bool.or_eq_false_iff, beq_eq_false_iff_ne]
  refine ⟨⟨⟨?_, ?_⟩, ?_⟩, ?_⟩ <;>
    · rintro rfl
      cases digit

/-- Nothing is skipped before a character that is no space. -/
theorem skipSpace_cons {first : Char} (visible : isSpace first = false) (rest : List Char) :
    skipSpace (first :: rest) = first :: rest := by
  simp [skipSpace, visible]

/-- A number literal is read where a value is expected. -/
theorem readValue?_digits (fuel number : Nat) {rest : List Char} (closes : Closes rest) :
    readValue? (fuel + 1) (Decimal.digits number ++ rest) = some (ofNat number, rest) := by
  have read := unsigned?_digits number closes
  obtain ⟨first, others, same, digit, -⟩ := Decimal.digits_eq_cons number
  have visible := skipSpace_cons (isSpace_of_isDigit digit) (others ++ rest)
  have literal : number? (first :: (others ++ rest)) = some (Decimal.text number, rest) := by
    rw [same, List.cons_append] at read
    rw [number?]
    · rw [read, Decimal.text, same]
      rfl
    · rintro _ ⟨⟩
      cases digit
  rw [same, List.cons_append, readValue?, visible]
  split
  case h_7 =>
    rw [literal]
    rfl
  all_goals
    next same =>
      obtain ⟨rfl, -⟩ := List.cons.inj same
      cases digit

/-! ### Values -/

/-- Values whose numbers are whole and whose strings denote texts. -/
inductive Plain : Json → Prop
  | null : Plain .null
  | bool (value : Bool) : Plain (.bool value)
  | whole (number : Nat) : Plain (ofNat number)
  | string (text : String) : Plain (.string text)
  | array {items : List Json} : (∀ item ∈ items, Plain item) → Plain (.array items)
  | object {members : List (String × Json)} :
    (∀ member ∈ members, Plain member.2) → Plain (.object members)

/-- A value begins neither like a blank nor like a closing bracket. -/
theorem Plain.exists_cons {value : Json} (plain : value.Plain) (rest : List Char) :
    ∃ first others, value.write rest = first :: others ∧ isSpace first = false ∧ first ≠ ']' := by
  cases plain with
  | null => exact ⟨'n', _, rfl, by decide, by decide⟩
  | bool value => cases value <;> exact ⟨_, _, rfl, by decide, by decide⟩
  | whole number =>
    obtain ⟨first, others, same, digit, -⟩ := Decimal.digits_eq_cons number
    refine ⟨first, others ++ rest, by rw [write_ofNat, same]; rfl, ?_, ?_⟩
    · exact isSpace_of_isDigit digit
    · rintro rfl
      cases digit
  | string text => exact ⟨'"', _, rfl, by decide, by decide⟩
  | array => exact ⟨'[', _, rfl, by decide, by decide⟩
  | object => exact ⟨'{', _, rfl, by decide, by decide⟩

/-! ### How long the text of a value is -/

theorem length_add_two_le_writeString (text : String) (rest : List Char) :
    rest.length + 2 ≤ (writeString text rest).length := by
  have body (text rest : List Char) : rest.length ≤ (escaped text rest).length := by
    induction text with
    | nil => exact Nat.le_refl _
    | cons char text inductionHypothesis =>
      show _ ≤ (escape char ++ escaped text rest).length
      rw [List.length_append]
      omega
  exact Nat.succ_le_succ (body text.toList ('"' :: rest))

theorem length_le_writeItems {items : List Json}
    (longer : ∀ item ∈ items, ∀ rest, rest.length < (item.write rest).length) (rest : List Char) :
    rest.length ≤ (writeItems items rest).length := by
  induction items with
  | nil => exact Nat.le_refl _
  | cons item items inductionHypothesis =>
    cases items with
    | nil => exact Nat.le_of_lt (longer item List.mem_cons_self rest)
    | cons next items =>
      have later := inductionHypothesis fun item member =>
        longer item (List.mem_cons_of_mem _ member)
      have own := longer item List.mem_cons_self (',' :: writeItems (next :: items) rest)
      show _ ≤ (item.write (',' :: writeItems (next :: items) rest)).length
      rw [List.length_cons] at own
      omega

theorem length_lt_writeMember {value : Json} {rest : List Char}
    (longer : rest.length < (value.write rest).length) (key : String) :
    rest.length < (writeString key (':' :: value.write rest)).length := by
  have named := length_add_two_le_writeString key (':' :: value.write rest)
  rw [List.length_cons] at named
  omega

theorem length_le_writeMembers {members : List (String × Json)}
    (longer : ∀ member ∈ members, ∀ rest, rest.length < (member.2.write rest).length)
    (rest : List Char) : rest.length ≤ (writeMembers members rest).length := by
  induction members with
  | nil => exact Nat.le_refl _
  | cons member members inductionHypothesis =>
    obtain ⟨key, value⟩ := member
    cases members with
    | nil => exact Nat.le_of_lt (length_lt_writeMember (longer _ List.mem_cons_self rest) key)
    | cons next members =>
      have later := inductionHypothesis fun member there =>
        longer member (List.mem_cons_of_mem _ there)
      have own := length_lt_writeMember
        (longer _ List.mem_cons_self (',' :: writeMembers (next :: members) rest)) key
      refine Nat.le_trans later (Nat.le_trans (Nat.le_succ _) (Nat.le_of_lt ?_))
      exact own

/-- A value has a text. -/
theorem Plain.length_lt_write {value : Json} (plain : value.Plain) (rest : List Char) :
    rest.length < (value.write rest).length := by
  induction plain generalizing rest with
  | null =>
    show _ < ('n' :: 'u' :: 'l' :: 'l' :: rest).length
    simp only [List.length_cons]
    omega
  | bool value =>
    cases value
    · show _ < ('f' :: 'a' :: 'l' :: 's' :: 'e' :: rest).length
      simp only [List.length_cons]
      omega
    · show _ < ('t' :: 'r' :: 'u' :: 'e' :: rest).length
      simp only [List.length_cons]
      omega
  | whole number =>
    obtain ⟨first, others, same, -⟩ := Decimal.digits_eq_cons number
    rw [write_ofNat, same, List.length_append, List.length_cons]
    omega
  | string text => exact Nat.lt_of_lt_of_le (by omega) (length_add_two_le_writeString text rest)
  | @array items _ inductionHypothesis =>
    have inner := length_le_writeItems inductionHypothesis (']' :: rest)
    show _ < ('[' :: writeItems items (']' :: rest)).length
    rw [List.length_cons] at inner ⊢
    omega
  | @object members _ inductionHypothesis =>
    have inner := length_le_writeMembers inductionHypothesis ('}' :: rest)
    show _ < ('{' :: writeMembers members ('}' :: rest)).length
    rw [List.length_cons] at inner ⊢
    omega

/-! ### Reading -/

/-- The text of the value is read back, wherever it stands, with fuel for twice its length. -/
def IsRead (value : Json) : Prop :=
  ∀ {rest : List Char} {fuel : Nat}, Closes rest →
    2 * (value.write rest).length ≤ fuel + 1 + 2 * rest.length →
    readValue? fuel (value.write rest) = some (value, rest)

/-- The items of an array are read back one after another. -/
theorem readItems?_writeItems {item : Json} {items : List Json}
    (plain : ∀ other ∈ item :: items, other.Plain) (isRead : ∀ other ∈ item :: items, other.IsRead)
    {rest : List Char} {fuel : Nat}
    (enough : 2 * (writeItems (item :: items) (']' :: rest)).length ≤
      fuel + 2 * (']' :: rest).length) :
    readItems? fuel (writeItems (item :: items) (']' :: rest)) = some (item :: items, rest) := by
  induction items generalizing item fuel with
  | nil =>
    have longer := (plain item List.mem_cons_self).length_lt_write (']' :: rest)
    change 2 * (item.write (']' :: rest)).length ≤ _ at enough
    cases fuel with
    | zero => omega
    | succ fuel =>
      have read := isRead item List.mem_cons_self (closes_bracket rest) enough
      show readItems? (fuel + 1) (item.write (']' :: rest)) = _
      rw [readItems?, read]
      rfl
  | cons next items inductionHypothesis =>
    have longer := (plain item List.mem_cons_self).length_lt_write
      (',' :: writeItems (next :: items) (']' :: rest))
    have later := length_le_writeItems
      (fun other member => (plain other (List.mem_cons_of_mem _ member)).length_lt_write)
      (']' :: rest)
    change 2 * (item.write (',' :: writeItems (next :: items) (']' :: rest))).length ≤ _ at enough
    simp only [List.length_cons] at enough longer later
    cases fuel with
    | zero => omega
    | succ fuel =>
      have read := @isRead item List.mem_cons_self _ fuel
        (closes_comma (writeItems (next :: items) (']' :: rest)))
        (by rw [List.length_cons]; omega)
      have others := @inductionHypothesis next
        (fun other member => plain other (List.mem_cons_of_mem _ member))
        (fun other member => isRead other (List.mem_cons_of_mem _ member)) fuel
        (by rw [List.length_cons]; omega)
      show readItems? (fuel + 1) (item.write (',' :: writeItems (next :: items) (']' :: rest))) = _
      rw [readItems?, read]
      show (readItems? fuel (writeItems (next :: items) (']' :: rest))).map _ = _
      rw [others]
      rfl

section Members

variable {key : String} {value : Json} {text rest : List Char} {fuel : Nat}

/-- The last member of an object is read up to the closing brace. -/
theorem readMembers?_last (read : readValue? fuel text = some (value, '}' :: rest)) :
    readMembers? (fuel + 1) (writeString key (':' :: text)) = some ([(some key, value)], rest) := by
  simp only [writeString, readMembers?, skipSpace_cons (rfl : isSpace '"' = false),
    stringBody?_escaped, skipSpace_cons (rfl : isSpace ':' = false), read,
    skipSpace_cons (rfl : isSpace '}' = false)]

/-- Any other member is read up to the comma behind it. -/
theorem readMembers?_next (read : readValue? fuel text = some (value, ',' :: rest)) :
    readMembers? (fuel + 1) (writeString key (':' :: text)) =
      (readMembers? fuel rest).map fun other => ((some key, value) :: other.1, other.2) := by
  simp only [writeString, readMembers?, skipSpace_cons (rfl : isSpace '"' = false),
    stringBody?_escaped, skipSpace_cons (rfl : isSpace ':' = false), read,
    skipSpace_cons (rfl : isSpace ',' = false)]

end Members

/-- The members of an object are read back one after another. -/
theorem readMembers?_writeMembers {member : String × Json} {members : List (String × Json)}
    (plain : ∀ other ∈ member :: members, other.2.Plain)
    (isRead : ∀ other ∈ member :: members, other.2.IsRead) {rest : List Char} {fuel : Nat}
    (enough : 2 * (writeMembers (member :: members) ('}' :: rest)).length ≤
      fuel + 2 * ('}' :: rest).length) :
    readMembers? fuel (writeMembers (member :: members) ('}' :: rest)) =
      some ((member :: members).map fun other => (some other.1, other.2), rest) := by
  induction members generalizing member fuel with
  | nil =>
    obtain ⟨key, value⟩ := member
    have own : value.Plain := plain _ List.mem_cons_self
    have longer := own.length_lt_write ('}' :: rest)
    have named := length_add_two_le_writeString key (':' :: value.write ('}' :: rest))
    change 2 * (writeString key (':' :: value.write ('}' :: rest))).length ≤ _ at enough
    simp only [List.length_cons] at enough longer named
    cases fuel with
    | zero => omega
    | succ fuel =>
      have read := @isRead (key, value) List.mem_cons_self _ fuel (closes_brace rest)
        (by simp only [List.length_cons]; omega)
      exact readMembers?_last read
  | cons next members inductionHypothesis =>
    obtain ⟨key, value⟩ := member
    have own : value.Plain := plain _ List.mem_cons_self
    have longer := own.length_lt_write (',' :: writeMembers (next :: members) ('}' :: rest))
    have later := length_le_writeMembers
      (fun other there => (plain other (List.mem_cons_of_mem _ there)).length_lt_write)
      ('}' :: rest)
    have named := length_add_two_le_writeString key
      (':' :: value.write (',' :: writeMembers (next :: members) ('}' :: rest)))
    change 2 * (writeString key
      (':' :: value.write (',' :: writeMembers (next :: members) ('}' :: rest)))).length ≤
        _ at enough
    simp only [List.length_cons] at enough longer later named
    cases fuel with
    | zero => omega
    | succ fuel =>
      have others := @inductionHypothesis next
        (fun other there => plain other (List.mem_cons_of_mem _ there))
        (fun other there => isRead other (List.mem_cons_of_mem _ there)) fuel
        (by rw [List.length_cons]; omega)
      have read := @isRead (key, value) List.mem_cons_self _ fuel
        (closes_comma (writeMembers (next :: members) ('}' :: rest)))
        (by simp only [List.length_cons]; omega)
      refine (readMembers?_next read).trans ?_
      rw [others]
      rfl

/-- Keys that denote texts make an object. -/
theorem objectOf_map (members : List (String × Json)) :
    objectOf (members.map fun member => (some member.1, member.2)) = .object members := by
  have known : (members.map fun member => (some member.1, member.2)).mapM
      (fun (member : Option String × Json) => member.1.map fun key => (key, member.2)) =
        some members := by
    induction members with
    | nil => rfl
    | cons member members inductionHypothesis =>
      simp [List.mapM_cons, inductionHypothesis]
  unfold objectOf
  rw [known]

/-- It takes some fuel to read a value, for it has a text. -/
theorem Plain.isRead_of_succ {value : Json} (plain : value.Plain)
    (read : ∀ (rest : List Char) (fuel : Nat), Closes rest →
      2 * (value.write rest).length ≤ fuel + 2 + 2 * rest.length →
      readValue? (fuel + 1) (value.write rest) = some (value, rest)) : value.IsRead := by
  intro rest fuel closes enough
  have longer := plain.length_lt_write rest
  cases fuel with
  | zero => omega
  | succ fuel => exact read rest fuel closes enough

theorem writeItems_eq_cons {item : Json} (plain : item.Plain) (items : List Json)
    (rest : List Char) :
    ∃ first others, writeItems (item :: items) rest = first :: others ∧
      isSpace first = false ∧ first ≠ ']' := by
  cases items with
  | nil => exact plain.exists_cons rest
  | cons next items => exact plain.exists_cons (',' :: writeItems (next :: items) rest)

theorem writeMembers_eq_cons (member : String × Json) (members : List (String × Json))
    (rest : List Char) : ∃ others, writeMembers (member :: members) rest = '"' :: others := by
  obtain ⟨key, value⟩ := member
  cases members <;> exact ⟨_, rfl⟩

/-- Every plain value is read back. -/
theorem Plain.isRead {value : Json} (plain : value.Plain) : value.IsRead := by
  induction plain with
  | null => exact Plain.null.isRead_of_succ fun rest fuel closes enough => rfl
  | bool value =>
    exact (Plain.bool value).isRead_of_succ fun rest fuel closes enough => by cases value <;> rfl
  | whole number =>
    refine (Plain.whole number).isRead_of_succ fun rest fuel closes enough => ?_
    rw [write_ofNat]
    exact readValue?_digits fuel number closes
  | string text =>
    refine (Plain.string text).isRead_of_succ fun rest fuel closes enough => ?_
    show (stringBody? (escaped text.toList ('"' :: rest))).map _ = _
    rw [stringBody?_escaped]
    rfl
  | @array items plain inductionHypothesis =>
    refine (Plain.array plain).isRead_of_succ fun rest fuel closes enough => ?_
    cases items with
    | nil => rfl
    | cons item items =>
      change 2 * ('[' :: writeItems (item :: items) (']' :: rest)).length ≤ _ at enough
      have read := @readItems?_writeItems _ _ plain inductionHypothesis rest fuel
        (by simp only [List.length_cons] at enough ⊢; omega)
      obtain ⟨first, others, begins, visible, bracket⟩ :=
        writeItems_eq_cons (plain item List.mem_cons_self) items (']' :: rest)
      show readValue? (fuel + 1) ('[' :: writeItems (item :: items) (']' :: rest)) = _
      rw [begins] at read ⊢
      simp only [readValue?, skipSpace_cons (rfl : isSpace '[' = false), skipSpace_cons visible]
      split
      · next same => exact absurd (List.cons.inj same).1 bracket
      · rw [read]
        rfl
  | @object members plain inductionHypothesis =>
    refine (Plain.object plain).isRead_of_succ fun rest fuel closes enough => ?_
    cases members with
    | nil => rfl
    | cons member members =>
      change 2 * ('{' :: writeMembers (member :: members) ('}' :: rest)).length ≤ _ at enough
      have read := @readMembers?_writeMembers _ _ plain inductionHypothesis rest fuel
        (by simp only [List.length_cons] at enough ⊢; omega)
      obtain ⟨others, begins⟩ := writeMembers_eq_cons member members ('}' :: rest)
      show readValue? (fuel + 1) ('{' :: writeMembers (member :: members) ('}' :: rest)) = _
      rw [begins] at read ⊢
      show (readMembers? fuel ('"' :: others)).map (fun other => (objectOf other.1, other.2)) = _
      rw [read]
      exact congrArg (fun value => some (value, rest)) (objectOf_map (member :: members))

/-- The compact text of a plain value is read back as the value. -/
theorem Plain.parse?_render {value : Json} (plain : value.Plain) :
    parse? value.render = some value := by
  have read : readValue? (2 * (value.write []).length + 1) (value.write []) = some (value, []) :=
    plain.isRead trivial (by omega)
  unfold parse? render
  rw [String.toList_ofList]
  simp only [read]
  rfl

end ReleaseCatalog.Json
