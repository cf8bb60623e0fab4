/-
The catalog in the tables of a database. Documents are kept as JSON text in rows with a primary
key, and the tag of an edition or version is kept in a column of its own beside the document, so
that a conditional write can be said in the condition of an update.

The statements of SQL that are needed are three: select the row with a key, insert a row or
replace the one with its key, and update the row with a key and a tag and count the rows that were
changed. Each call runs in one transaction, which is rolled back when the call fails.
-/

import ReleaseCatalog.Json.Parser
import ReleaseCatalog.Store.Catalog

namespace ReleaseCatalog

/-- A row of a table of tagged documents. -/
structure TaggedRow where
  eTag : String
  document : String
  deriving DecidableEq, Repr

/-- A row of the table of instances; the published flag is stored as a number. -/
structure InstanceRow where
  state : Option String
  isPublished : Nat
  deriving DecidableEq, Repr

/-- The four tables by primary key. -/
structure Tables where
  datasets : Collection String String := {}
  editions : Collection (String × String) TaggedRow := {}
  versions : Collection VersionKey TaggedRow := {}
  instances : Collection String InstanceRow := {}
  deriving Inhabited

namespace Tables

/-- The document that a stored text encodes. -/
def decode (read? : Json → Option α) (text : String) : Result α :=
  match Json.decode? read? text with
  | some document => .ok document
  | none => .error .serialization

/-- Selects a dataset. -/
def fetchDataset (tables : Tables) (id : String) : Result Dataset :=
  match tables.datasets.get? id with
  | none => .error .datasetNotFound
  | some document => decode Dataset.ofJson? document

/-- Inserts a dataset or replaces the one with its key. -/
def storeDataset (tables : Tables) (id : String) (document : Dataset) : Tables :=
  let text := { document with id := id }.toJson.render
  { tables with datasets := tables.datasets.put id text }

/-- The type of a dataset as authorised or public readers see it. -/
def getDatasetType (tables : Tables) (id : String) (authorised : Bool) : Result DatasetType := do
  let dataset ← tables.fetchDataset id
  match dataset.typeFor authorised with
  | none => .error .datasetNotFound
  | some type => DatasetType.resolve type

/-- Records the association of a version on a dataset. -/
def associate (now : Timestamp) (tables : Tables) (id : String) (state : State)
    (version : Version) : Result Unit × Tables :=
  match tables.fetchDataset id with
  | .error error => (.error error, tables)
  | .ok dataset => (.ok (), tables.storeDataset id (dataset.associateNext id now state version))

/-- Selects an edition; the selector must admit the tag in the document. -/
def getEdition (tables : Tables) (datasetId edition selector : String) : Result Edition := do
  match tables.editions.get? (datasetId, edition) with
  | none => .error .editionNotFound
  | some row =>
    let document ← decode Edition.ofJson? row.document
    if ETag.admits selector document.eTag then .ok document else .error .editionNotFound

/-- Inserts an edition, freshly tagged, or replaces the one with its key. -/
def upsertEdition (tables : Tables) (datasetId edition : String) (document : Edition) : Tables :=
  let stored := document.stamp
  let row := ⟨stored.eTag, stored.toJson.render⟩
  { tables with editions := tables.editions.put (datasetId, edition) row }

/-- Whether an edition exists and, if a state is given, its Current half has it. -/
def checkEdition (tables : Tables) (datasetId edition : String) (state : Option State) :
    Result Unit := do
  let document ← tables.getEdition datasetId edition ETag.any
  match state with
  | none => .ok ()
  | some wanted =>
    if document.current.bind (·.state) = some wanted then .ok () else .error .editionNotFound

/-- Selects a version, if there is one. -/
def fetchVersion (tables : Tables) (key : VersionKey) : Result (Option Version) :=
  match tables.versions.get? key with
  | none => .ok none
  | some row => (decode Version.ofJson? row.document).map some

/-- Selects a version; the selector must admit the tag in the document. -/
def getVersion (tables : Tables) (key : VersionKey) (selector : String) : Result Version := do
  match ← tables.fetchVersion key with
  | some document =>
    if ETag.admits selector document.eTag then .ok document else .error .versionNotFound
  | none => .error .versionNotFound

/-- Inserts a version and, when it has one, its instance, or replaces those with their keys. -/
def addVersion (now : Timestamp) (tables : Tables) (version : Version) : Result String × Tables :=
  let stored := version.stampNew now
  let row := ⟨stored.eTag, stored.toJson.render⟩
  let record := stored.freshInstance
  let instances :=
    if stored.hasInstance then
      tables.instances.put record.id ⟨record.state.map State.name, record.isPublished.toNat⟩
    else tables.instances
  (.ok stored.eTag,
    { tables with versions := tables.versions.put stored.key row, instances := instances })

/-- Updates the row with a key if its tag column has the given tag; answers how many rows were
changed. -/
def updateWhereTag (rows : Collection VersionKey TaggedRow) (key : VersionKey) (eTag : String)
    (row : TaggedRow) : Nat × Collection VersionKey TaggedRow :=
  match rows.get? key with
  | some stored => if stored.eTag = eTag then (1, rows.put key row) else (0, rows)
  | none => (0, rows)

/-- Replaces the version in the slot of `current`. The tag is checked on the document that was
read, and once more by the condition of the update; no row changed means a conflict. -/
def updateVersion (now : Timestamp) (tables : Tables) (path : WritePath)
    (current candidate : Version) (selector : String) : Result String × Tables :=
  match tables.fetchVersion current.key with
  | .error error => (.error error, tables)
  | .ok none => (.error .versionNotFound, tables)
  | .ok (some existing) =>
    match ETag.check current.resource selector existing.eTag with
    | .error error => (.error error, tables)
    | .ok () =>
      let stored := Version.stamp now existing candidate
      match updateWhereTag tables.versions existing.key existing.eTag
          ⟨stored.eTag, stored.toJson.render⟩ with
      | (0, _) => (.error (.conflict current.resource selector), tables)
      | (_, versions) =>
        let instances :=
          if path = .generic ∧ stored.id ≠ "" then
            tables.instances.modify stored.id fun row =>
              { row with state := stored.state.map State.name }
          else tables.instances
        (.ok stored.eTag, { tables with versions := versions, instances := instances })

/-- Selects an instance. -/
def getInstance (tables : Tables) (id : String) : Result Instance :=
  match tables.instances.get? id with
  | none => .error .instanceNotFound
  | some row =>
    match row.state with
    | none => .ok { id := id, state := none, isPublished := row.isPublished != 0 }
    | some text => (State.parse text).map fun state =>
        { id := id, state := some state, isPublished := row.isPublished != 0 }

/-- Updates an instance to published; no row changed means that there is none. -/
def publishInstance (tables : Tables) (id : String) : Result Unit × Tables :=
  match tables.instances.get? id with
  | none => (.error .instanceNotFound, tables)
  | some _ =>
    let row := ⟨some State.published.name, 1⟩
    (.ok (), { tables with instances := tables.instances.put id row })

/-- The answer to a call, and the tables after it. -/
def perform (now : Timestamp) (tables : Tables) : (call : StoreCall) → call.Answer × Tables
  | .getDataset id => (tables.fetchDataset id, tables)
  | .upsertDataset id document => (.ok (), tables.storeDataset id document)
  | .associate id state version => associate now tables id state version
  | .getDatasetType id authorised => (tables.getDatasetType id authorised, tables)
  | .getEdition datasetId edition eTag => (tables.getEdition datasetId edition eTag, tables)
  | .upsertEdition datasetId edition document =>
    (.ok (), tables.upsertEdition datasetId edition document)
  | .checkEdition datasetId edition state => (tables.checkEdition datasetId edition state, tables)
  | .addVersion version => addVersion now tables version
  | .getVersion datasetId edition number eTag =>
    (tables.getVersion ⟨datasetId, edition, number⟩ eTag, tables)
  | .updateVersion path current candidate selector =>
    updateVersion now tables path current candidate selector
  | .getInstance id => (tables.getInstance id, tables)
  | .publishInstance id => tables.publishInstance id

end Tables

end ReleaseCatalog
