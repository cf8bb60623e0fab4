/-
Versions as JSON documents. Empty texts and absent parts are left out, save the version number;
a list that is present is written even when it is empty, so that the two can be told apart when
the document is read back.
-/

import ReleaseCatalog.Time.Reader
import ReleaseCatalog.Version.Basic

namespace ReleaseCatalog

namespace Timestamp

/-- Times are written as text. -/
def toJson (stamp : Timestamp) : Json :=
  .string stamp.text

/-- Times are read from text, converted to universal time. -/
def ofJson? : Json → Option Timestamp
  | .string text => read? text
  | _ => none

end Timestamp

namespace VersionLinks

/-- The links of a version, in the order in which they are written. -/
def keys : List String := ["dataset", "dimensions", "edition", "self", "spatial", "version"]

/-- Absent links are left out. -/
def toJson (links : VersionLinks) : Json :=
  .object (Json.optional "dataset" Link.toJson links.dataset ++
    Json.optional "dimensions" Link.toJson links.dimensions ++
    Json.optional "edition" Link.toJson links.edition ++
    Json.optional "self" Link.toJson links.self ++
    Json.optional "spatial" Link.toJson links.spatial ++
    Json.optional "version" Link.toJson links.version)

/-- Reads the links of a version; every one may be missing. -/
def ofJson? (value : Json) : Option VersionLinks := do
  let fields ← Json.Fields.read? keys value
  some {
    dataset := ← fields.optional "dataset" Link.ofJson?
    dimensions := ← fields.optional "dimensions" Link.ofJson?
    edition := ← fields.optional "edition" Link.ofJson?
    self := ← fields.optional "self" Link.ofJson?
    spatial := ← fields.optional "spatial" Link.ofJson?
    version := ← fields.optional "version" Link.ofJson? }

end VersionLinks

namespace Version

/-- The fields of a version, in the order in which they are written. -/
def keys : List String :=
  ["id", "dataset_id", "edition", "version", "type", "state", "collection_id", "release_date",
    "temporal", "alerts", "latest_changes", "usage_notes", "downloads", "links", "last_updated",
    "e_tag"]

/-- The document of a version. -/
def toJson (version : Version) : Json :=
  .object (Json.unlessEmpty "id" version.id ++
    Json.unlessEmpty "dataset_id" version.datasetId ++
    Json.unlessEmpty "edition" version.edition ++
    Json.member "version" (Json.ofCount version.number) ++
    Json.unlessEmpty "type" version.type ++
    Json.optional "state" State.toJson version.state ++
    Json.unlessEmpty "collection_id" version.collectionId ++
    Json.unlessEmpty "release_date" version.releaseDate ++
    Json.optionalList "temporal" TemporalFrequency.toJson version.temporal ++
    Json.optionalList "alerts" Alert.toJson version.alerts ++
    Json.optionalList "latest_changes" LatestChange.toJson version.latestChanges ++
    Json.optionalList "usage_notes" UsageNote.toJson version.usageNotes ++
    Json.optional "downloads" Downloads.toJson version.downloads ++
    Json.optional "links" VersionLinks.toJson version.links ++
    Json.optional "last_updated" Timestamp.toJson version.lastUpdated ++
    Json.unlessEmpty "e_tag" version.eTag)

/-- Reads a version; every field may be missing. -/
def ofJson? (value : Json) : Option Version := do
  let fields ← Json.Fields.read? keys value
  some {
    id := ← fields.text "id"
    datasetId := ← fields.text "dataset_id"
    edition := ← fields.text "edition"
    number := ← fields.orElse "version" Json.decodeCount 0
    type := ← fields.text "type"
    state := ← fields.optional "state" State.ofJson?
    collectionId := ← fields.text "collection_id"
    releaseDate := ← fields.text "release_date"
    temporal := ← fields.optional "temporal" (Json.decodeList TemporalFrequency.ofJson?)
    alerts := ← fields.optional "alerts" (Json.decodeList Alert.ofJson?)
    latestChanges := ← fields.optional "latest_changes" (Json.decodeList LatestChange.ofJson?)
    usageNotes := ← fields.optional "usage_notes" (Json.decodeList UsageNote.ofJson?)
    downloads := ← fields.optional "downloads" Downloads.ofJson?
    links := ← fields.optional "links" VersionLinks.ofJson?
    lastUpdated := ← fields.optional "last_updated" Timestamp.ofJson?
    eTag := ← fields.text "e_tag" }

end Version

end ReleaseCatalog
