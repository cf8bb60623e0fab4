/-
What the key of a lock says. A key is the dataset, the edition and the number of a version, with
slashes between them, and nothing in it is escaped. It can be read from its end all the same: what
follows the last slash is the number, because a numeral has no slash; and what follows the last
slash before it is the edition, if the edition has none. All that is left is the dataset, with
whatever slashes it has. So the key is enough to know the version.
-/

import ReleaseCatalog.Proofs.Identifiers.VersionNumber
import ReleaseCatalog.Store.Catalog

namespace ReleaseCatalog

namespace Decimal

theorem not_mem_digits_of_not_isDigit {char : Char} (other : isDigit char = false) (number : Nat) :
    char ∉ digits number := by
  intro member
  rw [isDigit_of_mem_digits member] at other
  cases other

end Decimal

namespace Text

/-- A text up to its last slash, and what follows that slash. -/
def splitLast (text : List Char) : List Char × List Char :=
  ((text.reverse.dropWhile (· ≠ '/')).tail.reverse, (text.reverse.takeWhile (· ≠ '/')).reverse)

/-- Where no more slashes follow, the text is split. -/
theorem splitLast_append (before : List Char) {last : List Char} (free : '/' ∉ last) :
    splitLast (before ++ '/' :: last) = (before, last) := by
  have others : ∀ char ∈ last.reverse, decide (char ≠ '/') = true := by
    intro char member
    refine decide_eq_true fun same => free ?_
    exact same ▸ List.mem_reverse.mp member
  have backwards : (before ++ '/' :: last).reverse = last.reverse ++ '/' :: before.reverse := by
    simp
  unfold splitLast
  rw [backwards, List.dropWhile_append_of_pos others, List.takeWhile_append_of_pos others]
  simp

end Text

namespace VersionDetails

variable {details other : VersionDetails}

theorem toList_resourceKey (details : VersionDetails) :
    details.resourceKey.toList = (details.datasetId.toList ++ '/' :: details.edition.toList) ++
      '/' :: Decimal.digits details.number.toNat := by
  simp [resourceKey, Decimal.text]

/-- The version that a key is for, read from the end of the key. -/
def ofResourceKey (key : String) : VersionDetails :=
  let (name, numeral) := Text.splitLast key.toList
  let (datasetId, edition) := Text.splitLast name
  ⟨String.ofList datasetId, String.ofList edition, UInt32.ofNat (Decimal.value numeral)⟩

/-- A key is read back as the version that it is for, if the edition has no slash. -/
theorem ofResourceKey_resourceKey (plain : '/' ∉ details.edition.toList) :
    ofResourceKey details.resourceKey = details := by
  have numeral : '/' ∉ Decimal.digits details.number.toNat :=
    Decimal.not_mem_digits_of_not_isDigit (by decide) _
  unfold ofResourceKey
  rw [toList_resourceKey, Text.splitLast_append _ numeral]
  simp only [Text.splitLast_append _ plain, Decimal.value_digits, String.ofList_toList,
    UInt32.ofNat_toNat]

/-- Versions whose editions have no slashes have keys of their own. -/
theorem resourceKey_injective (plain : '/' ∉ details.edition.toList)
    (plainToo : '/' ∉ other.edition.toList) (same : details.resourceKey = other.resourceKey) :
    details = other := by
  rw [← ofResourceKey_resourceKey plain, same, ofResourceKey_resourceKey plainToo]

/-- A slash in an edition can be taken for one in the dataset. -/
example : resourceKey ⟨"a", "b/c", 1⟩ = resourceKey ⟨"a/b", "c", 1⟩ := by decide +kernel

/-- A stored document of the version has the key of the version for its name. -/
theorem resource_of_key {version : Version}
    (filed : version.key = ⟨details.datasetId, details.edition, details.number⟩) :
    version.resource = details.resourceKey := by
  obtain ⟨dataset, edition, number⟩ := VersionKey.mk.inj filed
  unfold Version.resource resourceKey
  rw [dataset, edition, number]

end VersionDetails

namespace VersionIdentifiers

variable {identifiers : VersionIdentifiers} {details : VersionDetails}

/-- The version that is meant has the number that the identifiers denote, however they write it. -/
theorem number_of_denotes (named : identifiers.resolve = .ok details) {number : UInt32}
    (denotes : Denotes identifiers.version number.toNat) : details.number = number := by
  obtain ⟨-, -, other, read, rfl⟩ := resolve_eq_ok_iff.mp named
  rw [parseVersionNumber_of_denotes denotes, UInt32.ofNat_toNat] at read
  split at read
  · exact (Except.ok.inj read).symm
  · cases read

end VersionIdentifiers

end ReleaseCatalog
