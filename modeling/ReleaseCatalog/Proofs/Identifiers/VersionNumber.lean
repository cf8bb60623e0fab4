/-
The numbers of versions, as callers write them. A text denotes a number if, between blanks, it is a
numeral for it, which may have a plus sign in front and any number of leading zeros. What a text
denotes is denoted by nothing but the text without its blanks, so it is one number at most; and a
text is read exactly when that number is one that a version can have. How a number is written then
makes no difference to the version that is meant.
-/

import Mathlib.Data.List.Induction
import Mathlib.Data.List.TakeWhile
import Mathlib.Data.Nat.Digits.Defs
import ReleaseCatalog.Identifiers
import ReleaseCatalog.Proofs.Text.Numerals

namespace ReleaseCatalog

namespace Decimal

/-- The places of a numeral are those of the positional system. -/
theorem value_eq_ofDigits (numeral : List Char) :
    value numeral = Nat.ofDigits 10 (numeral.reverse.map digitValue) := by
  induction numeral using List.reverseRecOn with
  | nil => rfl
  | append_singleton numeral char inductionHypothesis =>
    rw [value_append_singleton, inductionHypothesis, List.reverse_append, List.reverse_singleton,
      List.singleton_append, List.map_cons, Nat.ofDigits_cons, Nat.add_comm]

end Decimal

namespace Text

/-- A text is what trimming leaves of it, between blanks. -/
theorem exists_trim (text : List Char) :
    ∃ before after, text = before ++ trim text ++ after ∧
      (∀ char ∈ before, isBlank char = true) ∧ ∀ char ∈ after, isBlank char = true := by
  refine ⟨text.takeWhile isBlank, ((trimStart text).reverse.takeWhile isBlank).reverse, ?_,
    fun char member => List.mem_takeWhile_imp member,
    fun char member => List.mem_takeWhile_imp (List.mem_reverse.mp member)⟩
  have shortened : trim text ++ ((trimStart text).reverse.takeWhile isBlank).reverse =
      trimStart text := by
    unfold trim trimEnd
    rw [← List.reverse_append, List.takeWhile_append_dropWhile, List.reverse_reverse]
  rw [List.append_assoc, shortened]
  exact List.takeWhile_append_dropWhile.symm

/-- Trimming the start of a text stops where the text becomes visible. -/
theorem trimStart_append {before core rest : List Char} (filled : core ≠ [])
    (visible : ∀ char ∈ core, isBlank char = false) (leading : ∀ char ∈ before, isBlank char = true) :
    trimStart (before ++ (core ++ rest)) = core ++ rest := by
  obtain ⟨first, core, rfl⟩ := List.exists_cons_of_ne_nil filled
  have stops : trimStart (first :: (core ++ rest)) = first :: (core ++ rest) :=
    trimStart_of_not_blank first _ (visible first List.mem_cons_self)
  unfold trimStart at stops ⊢
  rw [List.dropWhile_append_of_pos leading]
  exact stops

/-- Trimming takes the blanks around a text away. -/
theorem trim_append {before core after : List Char} (filled : core ≠ [])
    (visible : ∀ char ∈ core, isBlank char = false)
    (leading : ∀ char ∈ before, isBlank char = true)
    (trailing : ∀ char ∈ after, isBlank char = true) :
    trim (before ++ core ++ after) = core := by
  have backwards : trimStart (after.reverse ++ (core.reverse ++ [])) = core.reverse ++ [] :=
    trimStart_append (mt List.reverse_eq_nil_iff.mp filled)
      (fun char member => visible char (List.mem_reverse.mp member))
      fun char member => trailing char (List.mem_reverse.mp member)
  unfold trim trimEnd
  rw [List.append_assoc, trimStart_append filled visible leading, List.reverse_append,
    ← List.append_nil core.reverse]
  show (trimStart (after.reverse ++ (core.reverse ++ []))).reverse = core
  rw [backwards, List.append_nil, List.reverse_reverse]

end Text

/-- Between blanks the text is a numeral for the number, which may have a plus sign. -/
def Denotes (text : String) (number : Nat) : Prop :=
  ∃ before sign numeral after : List Char,
    text.toList = before ++ (sign ++ numeral) ++ after ∧
      (∀ char ∈ before, Text.isBlank char = true) ∧ (∀ char ∈ after, Text.isBlank char = true) ∧
      (sign = [] ∨ sign = ['+']) ∧ numeral ≠ [] ∧
      (∀ char ∈ numeral, Decimal.isDigit char = true) ∧
      Nat.ofDigits 10 (numeral.reverse.map Decimal.digitValue) = number

namespace Denotes

variable {text : String} {number : Nat}

theorem isBlank_plus : Text.isBlank '+' = false := by decide

/-- What a text denotes is what it denotes without its blanks. -/
theorem iff_trim :
    Denotes text number ↔ ∃ sign numeral, Text.trim text.toList = sign ++ numeral ∧
      (sign = [] ∨ sign = ['+']) ∧ numeral ≠ [] ∧
      (∀ char ∈ numeral, Decimal.isDigit char = true) ∧ Decimal.value numeral = number := by
  constructor
  · rintro ⟨before, sign, numeral, after, same, leading, trailing, signed, filled, digits, rfl⟩
    have visible (char : Char) (member : char ∈ sign ++ numeral) : Text.isBlank char = false := by
      rcases List.mem_append.mp member with inSign | inNumeral
      · rcases signed with rfl | rfl
        · cases inSign
        · rw [List.mem_singleton.mp inSign]
          exact isBlank_plus
      · exact Text.isBlank_of_isDigit (digits char inNumeral)
    refine ⟨sign, numeral, ?_, signed, filled, digits, Decimal.value_eq_ofDigits numeral⟩
    rw [same]
    exact Text.trim_append (List.append_ne_nil_of_right_ne_nil sign filled) visible leading trailing
  · rintro ⟨sign, numeral, trimmed, signed, filled, digits, rfl⟩
    obtain ⟨before, after, same, leading, trailing⟩ := Text.exists_trim text.toList
    rw [trimmed] at same
    exact ⟨before, sign, numeral, after, same, leading, trailing, signed, filled, digits,
      (Decimal.value_eq_ofDigits numeral).symm⟩

end Denotes

/-! ### Reading numbers -/

/-- A text without the plus sign that it may begin with. -/
def unsigned : List Char → List Char
  | '+' :: rest => rest
  | rest => rest

theorem exists_unsigned (text : List Char) :
    ∃ sign, (sign = [] ∨ sign = ['+']) ∧ text = sign ++ unsigned text := by
  unfold unsigned
  split
  · next rest => exact ⟨['+'], .inr rfl, rfl⟩
  · exact ⟨[], .inl rfl, rfl⟩

/-- A digit is no plus sign, so that a numeral is seen to have none. -/
theorem unsigned_append {sign numeral : List Char} (signed : sign = [] ∨ sign = ['+'])
    (filled : numeral ≠ []) (digits : ∀ char ∈ numeral, Decimal.isDigit char = true) :
    unsigned (sign ++ numeral) = numeral := by
  rcases signed with rfl | rfl
  · obtain ⟨first, numeral, rfl⟩ := List.exists_cons_of_ne_nil filled
    have digit := digits first List.mem_cons_self
    unfold unsigned
    split
    · next same =>
      rw [(List.cons.inj same).1] at digit
      cases digit
    · rfl
  · rfl

theorem parseVersionNumber_eq (text : String) :
    parseVersionNumber text =
      if unsigned (Text.trim text.toList) ≠ [] ∧
          (unsigned (Text.trim text.toList)).all Decimal.isDigit ∧
          0 < Decimal.value (unsigned (Text.trim text.toList)) ∧
          Decimal.value (unsigned (Text.trim text.toList)) < 4294967296 then
        .ok (UInt32.ofNat (Decimal.value (unsigned (Text.trim text.toList))))
      else .error .invalidVersionNumber := rfl

/-- A text that denotes a number is read if a version can have that number. -/
theorem parseVersionNumber_of_denotes {text : String} {number : Nat}
    (denotes : Denotes text number) :
    parseVersionNumber text =
      if 0 < number ∧ number < 4294967296 then .ok (UInt32.ofNat number)
      else .error .invalidVersionNumber := by
  obtain ⟨sign, numeral, trimmed, signed, filled, digits, rfl⟩ := Denotes.iff_trim.mp denotes
  have all : numeral.all Decimal.isDigit = true := List.all_eq_true.mpr digits
  rw [parseVersionNumber_eq, trimmed, unsigned_append signed filled digits]
  simp only [ne_eq, filled, not_false_eq_true, all, true_and]

/-- What is read denotes a number. -/
theorem exists_denotes {text : String} {number : UInt32}
    (read : parseVersionNumber text = .ok number) : ∃ other, Denotes text other := by
  rw [parseVersionNumber_eq] at read
  split at read
  · next valid =>
    obtain ⟨filled, digits, -⟩ := valid
    obtain ⟨sign, signed, split⟩ := exists_unsigned (Text.trim text.toList)
    exact ⟨_, Denotes.iff_trim.mpr
      ⟨sign, _, split, signed, filled, fun char => List.all_eq_true.mp digits char, rfl⟩⟩
  · cases read

/-- A text is read as a number exactly if it denotes that number and a version can have it. -/
theorem parseVersionNumber_eq_ok_iff {text : String} {number : UInt32} :
    parseVersionNumber text = .ok number ↔ Denotes text number.toNat ∧ 1 ≤ number.toNat := by
  constructor
  · intro read
    obtain ⟨other, denotes⟩ := exists_denotes read
    rw [parseVersionNumber_of_denotes denotes] at read
    split at read
    · next valid =>
      have same : number.toNat = other := by
        rw [← Except.ok.inj read, UInt32.toNat_ofNat_of_lt' valid.2]
      rw [same]
      exact ⟨denotes, valid.1⟩
    · cases read
  · rintro ⟨denotes, positive⟩
    rw [parseVersionNumber_of_denotes denotes, if_pos ⟨positive, number.toNat_lt⟩,
      UInt32.ofNat_toNat]

theorem parseVersionNumber_of_bounds {text : String} {number : Nat} (denotes : Denotes text number)
    (positive : 1 ≤ number) (bound : number ≤ 4294967295) :
    parseVersionNumber text = .ok (UInt32.ofNat number) := by
  rw [parseVersionNumber_of_denotes denotes, if_pos ⟨positive, Nat.lt_succ_of_le bound⟩]

theorem eq_invalidVersionNumber {text : String} {error : CatalogError}
    (refused : parseVersionNumber text = .error error) : error = .invalidVersionNumber := by
  rw [parseVersionNumber_eq] at refused
  split at refused
  · cases refused
  · exact (Except.error.inj refused).symm

/-- A text is not read exactly if it denotes no number that a version can have. -/
theorem parseVersionNumber_eq_error_iff {text : String} {error : CatalogError} :
    parseVersionNumber text = .error error ↔
      error = .invalidVersionNumber ∧
        ¬∃ number, Denotes text number ∧ 1 ≤ number ∧ number ≤ 4294967295 := by
  constructor
  · intro refused
    refine ⟨eq_invalidVersionNumber refused, ?_⟩
    rintro ⟨number, denotes, positive, bound⟩
    cases refused.symm.trans (parseVersionNumber_of_bounds denotes positive bound)
  · rintro ⟨rfl, nothing⟩
    cases read : parseVersionNumber text with
    | ok number =>
      obtain ⟨denotes, positive⟩ := parseVersionNumber_eq_ok_iff.mp read
      exact absurd ⟨_, denotes, positive, Nat.le_of_lt_succ number.toNat_lt⟩ nothing
    | error error => rw [eq_invalidVersionNumber read]

/-- The decimal text of a number denotes it. -/
theorem denotes_text (number : Nat) : Denotes (Decimal.text number) number := by
  obtain ⟨first, rest, same, -⟩ := Decimal.digits_eq_cons number
  refine ⟨[], [], Decimal.digits number, [], ?_, nofun, nofun, .inl rfl, ?_,
    fun char member => Decimal.isDigit_of_mem_digits member, ?_⟩
  · simp [Decimal.text]
  · rw [same]
    exact List.cons_ne_nil _ _
  · rw [← Decimal.value_eq_ofDigits, Decimal.value_digits]

namespace VersionIdentifiers

variable {first second : VersionIdentifiers} {number : Nat}

/-- Identifiers name a version when they have all their parts. -/
theorem resolve_eq_ok_iff {identifiers : VersionIdentifiers} {details : VersionDetails} :
    identifiers.resolve = .ok details ↔
      identifiers.datasetId ≠ "" ∧ identifiers.edition ≠ "" ∧
        ∃ number, parseVersionNumber identifiers.version = .ok number ∧
          details = ⟨identifiers.datasetId, identifiers.edition, number⟩ := by
  unfold resolve
  by_cases dataset : identifiers.datasetId = ""
  · simp [dataset]
  · by_cases edition : identifiers.edition = ""
    · simp [dataset, edition]
    · simp [dataset, edition]
      cases parseVersionNumber identifiers.version with
      | error error => simp [Except.map]
      | ok number => simp [Except.map, eq_comm]

/-- Identifiers that write one number in different ways mean the same. -/
theorem resolve_eq_of_denotes (datasets : first.datasetId = second.datasetId)
    (editions : first.edition = second.edition) (denotes : Denotes first.version number)
    (alike : Denotes second.version number) : first.resolve = second.resolve := by
  have read : parseVersionNumber first.version = parseVersionNumber second.version :=
    (parseVersionNumber_of_denotes denotes).trans (parseVersionNumber_of_denotes alike).symm
  unfold resolve
  rw [datasets, editions, read]

theorem resolve_of_denotes (dataset : first.datasetId ≠ "") (edition : first.edition ≠ "")
    (denotes : Denotes first.version number) (positive : 1 ≤ number)
    (bound : number ≤ 4294967295) :
    first.resolve = .ok ⟨first.datasetId, first.edition, UInt32.ofNat number⟩ := by
  unfold resolve
  rw [if_neg (mt String.isEmpty_iff.mp dataset), if_neg (mt String.isEmpty_iff.mp edition),
    parseVersionNumber_of_bounds denotes positive bound]
  rfl

/-- Version numbers are read exactly: a text is read as the number that it denotes if a version can
have that number, and refused in every other case. So each number is read back from its decimal
text, and identifiers with the same dataset, edition and number name the same version, however they
write the number. -/
theorem version_numbers_are_read_exactly :
    (∀ text number, parseVersionNumber text = .ok number ↔
      Denotes text number.toNat ∧ 1 ≤ number.toNat ∧ number.toNat ≤ 4294967295) ∧
    (∀ text error, parseVersionNumber text = .error error ↔
      error = .invalidVersionNumber ∧
        ¬∃ number, Denotes text number ∧ 1 ≤ number ∧ number ≤ 4294967295) ∧
    (∀ number : UInt32, 1 ≤ number.toNat →
      parseVersionNumber (Decimal.text number.toNat) = .ok number) ∧
    ∀ (first second : VersionIdentifiers) number, first.datasetId = second.datasetId →
      first.edition = second.edition → Denotes first.version number →
      Denotes second.version number →
      first.resolve = second.resolve ∧
        (first.datasetId ≠ "" → first.edition ≠ "" → 1 ≤ number → number ≤ 4294967295 →
          first.resolve = .ok ⟨first.datasetId, first.edition, UInt32.ofNat number⟩) := by
  refine ⟨fun text number => ?_, fun text error => parseVersionNumber_eq_error_iff,
    fun number positive => parseVersionNumber_eq_ok_iff.mpr ⟨denotes_text _, positive⟩,
    fun first second number datasets editions denotes alike =>
      ⟨resolve_eq_of_denotes datasets editions denotes alike,
        fun dataset edition => resolve_of_denotes dataset edition denotes⟩⟩
  rw [parseVersionNumber_eq_ok_iff, and_iff_left (Nat.le_of_lt_succ number.toNat_lt)]

/-- The last number that a version can have, written plainly and in another way. -/
theorem version_numbers_are_read_exactly_sample :
    let first : VersionIdentifiers := ⟨"cpih01", "time-series", "4294967295"⟩
    let second : VersionIdentifiers := ⟨"cpih01", "time-series", "\u2003+004294967295 "⟩
    Denotes first.version 4294967295 ∧ Denotes second.version 4294967295 ∧
      first.resolve = second.resolve ∧
      first.resolve = .ok ⟨"cpih01", "time-series", 4294967295⟩ := by
  intro first second
  have denotes : Denotes first.version 4294967295 :=
    ⟨[], [], "4294967295".toList, [], by decide, nofun, nofun, .inl rfl, by decide,
      List.all_eq_true.mp rfl, by decide⟩
  have alike : Denotes second.version 4294967295 :=
    ⟨['\u2003'], ['+'], "004294967295".toList, [' '], by decide, List.all_eq_true.mp rfl,
      List.all_eq_true.mp rfl, .inr rfl, by decide, List.all_eq_true.mp rfl, by decide⟩
  obtain ⟨same, resolved⟩ :=
    version_numbers_are_read_exactly.2.2.2 first second _ rfl rfl denotes alike
  exact ⟨denotes, alike, same, resolved (by decide) (by decide) (by decide) (by decide)⟩

end VersionIdentifiers

end ReleaseCatalog
