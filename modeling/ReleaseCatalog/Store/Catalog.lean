/-
The catalog in memory: datasets, editions, versions and instances, each a collection of documents
by key. Every call is one step on the four collections; a call that fails changes none of them.
-/

import ReleaseCatalog.Store.Call
import ReleaseCatalog.Store.Collection

namespace ReleaseCatalog

/-- The slot of a version. -/
structure VersionKey where
  datasetId : String
  edition : String
  number : UInt32
  deriving DecidableEq, Repr

/-- The slot that a version says it belongs to. -/
def Version.key (version : Version) : VersionKey :=
  ⟨version.datasetId, version.edition, version.number⟩

/-- The stored documents. -/
structure Catalog where
  datasets : Collection String Dataset := {}
  editions : Collection (String × String) Edition := {}
  versions : Collection VersionKey Version := {}
  instances : Collection String Instance := {}
  deriving Inhabited

namespace Catalog

/-- A dataset. -/
def getDataset (catalog : Catalog) (id : String) : Result Dataset :=
  match catalog.datasets.get? id with
  | some dataset => .ok dataset
  | none => .error .datasetNotFound

/-- The type of a dataset as authorised or public readers see it; for readers who see no half the
dataset does not exist. -/
def getDatasetType (catalog : Catalog) (id : String) (authorised : Bool) : Result DatasetType :=
  match catalog.getDataset id with
  | .error error => .error error
  | .ok dataset =>
    match dataset.typeFor authorised with
    | none => .error .datasetNotFound
    | some type => DatasetType.resolve type

/-- An edition, if the selector admits its tag. -/
def getEdition (catalog : Catalog) (datasetId edition selector : String) : Result Edition :=
  match catalog.editions.get? (datasetId, edition) with
  | some document =>
    if ETag.admits selector document.eTag then .ok document else .error .editionNotFound
  | none => .error .editionNotFound

/-- Whether an edition exists and, if a state is given, its Current half has it. -/
def checkEdition (catalog : Catalog) (datasetId edition : String) (state : Option State) :
    Result Unit :=
  match catalog.getEdition datasetId edition ETag.any with
  | .error error => .error error
  | .ok document =>
    match state with
    | none => .ok ()
    | some wanted =>
      if document.current.bind (·.state) = some wanted then .ok () else .error .editionNotFound

/-- A version, if the selector admits its tag. -/
def getVersion (catalog : Catalog) (key : VersionKey) (selector : String) : Result Version :=
  match catalog.versions.get? key with
  | some document =>
    if ETag.admits selector document.eTag then .ok document else .error .versionNotFound
  | none => .error .versionNotFound

/-- The catalog with a dataset under a key, which becomes its identifier. -/
def upsertDataset (catalog : Catalog) (id : String) (document : Dataset) : Catalog :=
  { catalog with datasets := catalog.datasets.put id { document with id := id } }

/-- The catalog with an edition under a key, freshly tagged. -/
def upsertEdition (catalog : Catalog) (datasetId edition : String) (document : Edition) : Catalog :=
  { catalog with editions := catalog.editions.put (datasetId, edition) document.stamp }

/-- The catalog with the association of a version recorded on a dataset. -/
def associate (now : Timestamp) (catalog : Catalog) (id : String) (state : State)
    (version : Version) : Result Unit × Catalog :=
  match catalog.datasets.get? id with
  | none => (.error .datasetNotFound, catalog)
  | some dataset =>
    let associated := dataset.associateNext id now state version
    (.ok (), { catalog with datasets := catalog.datasets.put id associated })

/-- Stores a version in its slot, with a fresh instance when it has one. -/
def addVersion (now : Timestamp) (catalog : Catalog) (version : Version) :
    Result String × Catalog :=
  let stored := version.stampNew now
  let instances :=
    if stored.hasInstance then catalog.instances.put stored.id stored.freshInstance
    else catalog.instances
  (.ok stored.eTag,
    { catalog with versions := catalog.versions.put stored.key stored, instances := instances })

/-- Replaces the version in the slot of `current` if its tag is admitted. The generic write carries
the new state over to the instance of the version. -/
def updateVersion (now : Timestamp) (catalog : Catalog) (path : WritePath)
    (current candidate : Version) (selector : String) : Result String × Catalog :=
  match catalog.versions.get? current.key with
  | none => (.error .versionNotFound, catalog)
  | some existing =>
    match ETag.check current.resource selector existing.eTag with
    | .error error => (.error error, catalog)
    | .ok () =>
      let stored := Version.stamp now existing candidate
      let instances :=
        if path = .generic ∧ stored.id ≠ "" then
          catalog.instances.modify stored.id fun record => { record with state := stored.state }
        else catalog.instances
      (.ok stored.eTag,
        { catalog with versions := catalog.versions.put current.key stored, instances := instances })

/-- An instance. -/
def getInstance (catalog : Catalog) (id : String) : Result Instance :=
  match catalog.instances.get? id with
  | some record => .ok record
  | none => .error .instanceNotFound

/-- Marks an instance published. -/
def publishInstance (catalog : Catalog) (id : String) : Result Unit × Catalog :=
  match catalog.instances.get? id with
  | none => (.error .instanceNotFound, catalog)
  | some record =>
    let published := { record with isPublished := true, state := some .published }
    (.ok (), { catalog with instances := catalog.instances.put id published })

/-- The answer to a call, and the catalog after it. `now` is what the clock reads. -/
def perform (now : Timestamp) (catalog : Catalog) : (call : StoreCall) → call.Answer × Catalog
  | .getDataset id => (catalog.getDataset id, catalog)
  | .upsertDataset id document => (.ok (), catalog.upsertDataset id document)
  | .associate id state version => associate now catalog id state version
  | .getDatasetType id authorised => (catalog.getDatasetType id authorised, catalog)
  | .getEdition datasetId edition eTag => (catalog.getEdition datasetId edition eTag, catalog)
  | .upsertEdition datasetId edition document =>
    (.ok (), catalog.upsertEdition datasetId edition document)
  | .checkEdition datasetId edition state => (catalog.checkEdition datasetId edition state, catalog)
  | .addVersion version => addVersion now catalog version
  | .getVersion datasetId edition number eTag =>
    (catalog.getVersion ⟨datasetId, edition, number⟩ eTag, catalog)
  | .updateVersion path current candidate selector =>
    updateVersion now catalog path current candidate selector
  | .getInstance id => (catalog.getInstance id, catalog)
  | .publishInstance id => catalog.publishInstance id

end Catalog

end ReleaseCatalog
