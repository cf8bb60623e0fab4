/-
Datasets. A dataset is stored with two halves: Current, which the public sees, and Next, which is
being edited. Associating a version changes Next only; publishing one promotes Next to both halves.
-/

import ReleaseCatalog.Version.Codec

namespace ReleaseCatalog

/-- The links of one half of a dataset. -/
structure DatasetLinks where
  editions : Option Link := none
  latestVersion : Option Link := none
  self : Option Link := none
  deriving DecidableEq, Repr, Inhabited

/-- One half of a dataset. -/
structure DatasetHalf where
  id : String := ""
  title : String := ""
  description : String := ""
  type : String := ""
  state : Option State := none
  collectionId : String := ""
  nextRelease : String := ""
  links : Option DatasetLinks := none
  lastUpdated : Option Timestamp := none
  deriving DecidableEq, Repr, Inhabited

/-- A dataset as it is stored. -/
structure Dataset where
  id : String := ""
  current : Option DatasetHalf := none
  next : Option DatasetHalf := none
  deriving DecidableEq, Repr, Inhabited

namespace DatasetHalf

/-- The half with its latest version set to the given one: its number and where it is found. -/
def withLatestVersion (half : DatasetHalf) (version : Version) : DatasetHalf :=
  { half with
    links := some { half.links.getD {} with
      latestVersion := some ⟨Decimal.text version.number.toNat, version.versionHref⟩ } }

/-- Records that an editorial collection works on the given version. -/
def associate (half : DatasetHalf) (now : Timestamp) (state : State) (version : Version) :
    DatasetHalf :=
  { half.withLatestVersion version with
    state := some state
    collectionId := version.collectionId
    lastUpdated := some now }

/-- Marks the half published with the given version as its latest. -/
def publish (half : DatasetHalf) (now : Timestamp) (version : Version) : DatasetHalf :=
  { half.withLatestVersion version with
    state := some .published
    collectionId := ""
    lastUpdated := some now }

end DatasetHalf

namespace Dataset

/-- The half that authorised readers see: Next, or Current when there is no Next. -/
def authorisedHalf (dataset : Dataset) : Option DatasetHalf :=
  dataset.next <|> dataset.current

/-- Publishes a version: both halves become the promoted half. A dataset without any half gets a
fresh one with its own identifier. -/
def promote (dataset : Dataset) (now : Timestamp) (version : Version) : Dataset :=
  let promoted := (dataset.authorisedHalf.getD { id := dataset.id }).publish now version
  { id := dataset.id, current := some promoted, next := some promoted }

/-- Records an association on Next; a missing Next starts as a fresh half. -/
def associateNext (dataset : Dataset) (freshId : String) (now : Timestamp) (state : State)
    (version : Version) : Dataset :=
  { dataset with
    next := some ((dataset.next.getD { id := freshId }).associate now state version) }

/-- The stored text of the type that authorised or public readers see. -/
def typeFor (dataset : Dataset) (authorised : Bool) : Option String :=
  (if authorised then dataset.authorisedHalf else dataset.current).map (·.type)

end Dataset

namespace DatasetLinks

/-- The links of a dataset, in the order in which they are written. -/
def keys : List String := ["editions", "latest_version", "self"]

/-- Absent links are left out. -/
def toJson (links : DatasetLinks) : Json :=
  .object (Json.optional "editions" Link.toJson links.editions ++
    Json.optional "latest_version" Link.toJson links.latestVersion ++
    Json.optional "self" Link.toJson links.self)

/-- Reads the links of a dataset; every one may be missing. -/
def ofJson? (value : Json) : Option DatasetLinks := do
  let fields ← Json.Fields.read? keys value
  some {
    editions := ← fields.optional "editions" Link.ofJson?
    latestVersion := ← fields.optional "latest_version" Link.ofJson?
    self := ← fields.optional "self" Link.ofJson? }

end DatasetLinks

namespace DatasetHalf

/-- The fields of a half, in the order in which they are written. -/
def keys : List String :=
  ["id", "title", "description", "type", "state", "collection_id", "next_release", "links",
    "last_updated"]

/-- The document of a half; the identifier is written even when empty. -/
def toJson (half : DatasetHalf) : Json :=
  .object (Json.member "id" (.string half.id) ++
    Json.unlessEmpty "title" half.title ++
    Json.unlessEmpty "description" half.description ++
    Json.unlessEmpty "type" half.type ++
    Json.optional "state" State.toJson half.state ++
    Json.unlessEmpty "collection_id" half.collectionId ++
    Json.unlessEmpty "next_release" half.nextRelease ++
    Json.optional "links" DatasetLinks.toJson half.links ++
    Json.optional "last_updated" Timestamp.toJson half.lastUpdated)

/-- Reads a half; every field may be missing. -/
def ofJson? (value : Json) : Option DatasetHalf := do
  let fields ← Json.Fields.read? keys value
  some {
    id := ← fields.text "id"
    title := ← fields.text "title"
    description := ← fields.text "description"
    type := ← fields.text "type"
    state := ← fields.optional "state" State.ofJson?
    collectionId := ← fields.text "collection_id"
    nextRelease := ← fields.text "next_release"
    links := ← fields.optional "links" DatasetLinks.ofJson?
    lastUpdated := ← fields.optional "last_updated" Timestamp.ofJson? }

end DatasetHalf

namespace Dataset

/-- The fields of a dataset, in the order in which they are written. -/
def keys : List String := ["id", "current", "next"]

/-- The document of a dataset. -/
def toJson (dataset : Dataset) : Json :=
  .object (Json.member "id" (.string dataset.id) ++
    Json.optional "current" DatasetHalf.toJson dataset.current ++
    Json.optional "next" DatasetHalf.toJson dataset.next)

/-- Reads a dataset; the identifier must be given. -/
def ofJson? (value : Json) : Option Dataset := do
  let fields ← Json.Fields.read? keys value
  some {
    id := ← fields.required "id" Json.text?
    current := ← fields.optional "current" DatasetHalf.ofJson?
    next := ← fields.optional "next" DatasetHalf.ofJson? }

end Dataset

end ReleaseCatalog
