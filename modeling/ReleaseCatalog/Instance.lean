/-
Instances: the records of the imports that stand behind the versions of imported datasets. An
instance follows the state of its version.
-/

import ReleaseCatalog.Version.Basic

namespace ReleaseCatalog

/-- The record of an import. -/
structure Instance where
  id : String := ""
  state : Option State := none
  isPublished : Bool := false
  deriving DecidableEq, Repr, Inhabited

namespace Version

/-- Whether an import instance stands behind the version: it names one, and its dataset is not
static. A type that is not known is taken for an imported one. -/
def hasInstance (version : Version) : Bool :=
  !version.id.isEmpty && DatasetType.resolve? version.type != some .static

/-- The fresh record of the import behind a version. -/
def freshInstance (version : Version) : Instance :=
  { id := version.id, state := version.state }

end Version

namespace Instance

/-- The fields of an instance, in the order in which they are written. -/
def keys : List String := ["id", "state", "is_published"]

/-- The document of an instance. -/
def toJson (record : Instance) : Json :=
  .object (Json.member "id" (.string record.id) ++
    Json.optional "state" State.toJson record.state ++
    Json.member "is_published" (.bool record.isPublished))

/-- Reads an instance; the identifier must be given. -/
def ofJson? (value : Json) : Option Instance := do
  let fields ← Json.Fields.read? keys value
  some {
    id := ← fields.required "id" Json.text?
    state := ← fields.optional "state" State.ofJson?
    isPublished := ← fields.orElse "is_published" Json.bool? false }

end Instance

end ReleaseCatalog
