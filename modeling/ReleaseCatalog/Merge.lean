/-
The merge of a caller's partial update into the stored version. What the update leaves empty keeps
its stored value; alerts and latest changes are added to the stored ones; identity and type are
always the stored ones; and of the links the update may set the spatial one only.
-/

import ReleaseCatalog.Version.Basic

namespace ReleaseCatalog.Merge

/-- The text of the update, or the stored one when that is empty. -/
def text (stored update : String) : String :=
  if update.isEmpty then stored else update

/-- The list of the update, or the stored one when that is absent or empty. -/
def list (stored update : Option (List α)) : Option (List α) :=
  match update with
  | some (item :: items) => some (item :: items)
  | _ => stored

/-- The stored list followed by the one of the update; absent only if both are. -/
def append (stored update : Option (List α)) : Option (List α) :=
  match stored, update with
  | none, none => none
  | _, _ => some (stored.getD [] ++ update.getD [])

/-- The downloads of the update, with the stored ones in every format that it lacks. -/
def downloads (stored update : Option Downloads) : Option Downloads :=
  match update with
  | none => stored
  | some given =>
    match stored with
    | none => some given
    | some stored => some (given.fillMissingFrom stored)

/-- The stored links with the spatial link of the update, if it has one. -/
def links (stored update : Option VersionLinks) : Option VersionLinks :=
  match update.bind (·.spatial) with
  | none => stored
  | some spatial => some { stored.getD {} with spatial := some spatial }

/-- The collection of a version in the given state; a published one belongs to none. -/
def collection (state : Option State) (collectionId : String) : String :=
  if state = some .published then "" else collectionId

end ReleaseCatalog.Merge

namespace ReleaseCatalog.Version

/-- The candidate that an update makes of a stored version. -/
def combine (stored update : Version) : Version :=
  let state := update.state <|> stored.state
  { id := stored.id
    datasetId := stored.datasetId
    edition := stored.edition
    number := stored.number
    type := stored.type
    state := state
    collectionId := Merge.collection state (Merge.text stored.collectionId update.collectionId)
    releaseDate := Merge.text stored.releaseDate update.releaseDate
    temporal := Merge.list stored.temporal update.temporal
    alerts := Merge.append stored.alerts update.alerts
    latestChanges := Merge.append stored.latestChanges update.latestChanges
    usageNotes := Merge.list stored.usageNotes update.usageNotes
    downloads := Merge.downloads stored.downloads update.downloads
    links := Merge.links stored.links update.links
    lastUpdated := stored.lastUpdated
    eTag := stored.eTag }

/-- A published candidate belongs to no collection. -/
theorem combine_collectionId_of_published (stored update : Version)
    (published : (combine stored update).state = some .published) :
    (combine stored update).collectionId = "" := by
  have state : (update.state <|> stored.state) = some .published := published
  simp [combine, Merge.collection, state]

end ReleaseCatalog.Version
