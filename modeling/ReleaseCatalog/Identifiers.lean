/-
How a caller names a version, and what the name means: the dataset, the edition and the number of
the version. Different spellings of one number name the same version.
-/

import ReleaseCatalog.Json.Record
import ReleaseCatalog.Text.Blank
import ReleaseCatalog.Error

namespace ReleaseCatalog

/-- The name of a version as a caller gives it. -/
structure VersionIdentifiers where
  datasetId : String := ""
  edition : String := ""
  version : String := ""
  deriving DecidableEq, Repr, Inhabited

/-- The version that is meant. -/
structure VersionDetails where
  datasetId : String := ""
  edition : String := ""
  number : UInt32 := 0
  deriving DecidableEq, Repr, Inhabited

/-- Reads a version number: blanks, an optional plus sign, and the digits of a number from one to
`2 ^ 32 - 1`. -/
def parseVersionNumber (text : String) : Result UInt32 :=
  let numeral := match Text.trim text.toList with
    | '+' :: rest => rest
    | rest => rest
  let number := Decimal.value numeral
  if numeral ≠ [] ∧ numeral.all Decimal.isDigit ∧ 0 < number ∧ number < 4294967296 then
    .ok (UInt32.ofNat number)
  else .error .invalidVersionNumber

namespace VersionIdentifiers

/-- The version that the identifiers name. A missing dataset is reported before a missing edition,
and both before a bad version number. -/
def resolve (identifiers : VersionIdentifiers) : Result VersionDetails :=
  if identifiers.datasetId.isEmpty then .error (.missingIdentifier "dataset_id")
  else if identifiers.edition.isEmpty then .error (.missingIdentifier "edition")
  else (parseVersionNumber identifiers.version).map fun number =>
    ⟨identifiers.datasetId, identifiers.edition, number⟩

/-- The fields of identifiers, in the order in which they are written. -/
def keys : List String := ["dataset_id", "edition", "version"]

/-- All fields are written. -/
def toJson (identifiers : VersionIdentifiers) : Json :=
  .object (Json.member "dataset_id" (.string identifiers.datasetId) ++
    Json.member "edition" (.string identifiers.edition) ++
    Json.member "version" (.string identifiers.version))

/-- Reads identifiers; all fields must be given. -/
def ofJson? (value : Json) : Option VersionIdentifiers := do
  let fields ← Json.Fields.read? keys value
  some {
    datasetId := ← fields.required "dataset_id" Json.text?
    edition := ← fields.required "edition" Json.text?
    version := ← fields.required "version" Json.text? }

end VersionIdentifiers

namespace VersionDetails

/-- The name of the resource, which is the key of its lock. -/
def resourceKey (details : VersionDetails) : String :=
  details.datasetId ++ "/" ++ details.edition ++ "/" ++ Decimal.text details.number.toNat

end VersionDetails

end ReleaseCatalog
