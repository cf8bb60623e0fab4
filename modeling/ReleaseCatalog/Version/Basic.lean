/-
Versions: the releases of an edition of a dataset, and the unit that is driven to publication.

The same type serves as the partial update that a caller sends: there an empty text, an empty list
or an absent part means "keep what is stored" (see `ReleaseCatalog.Merge`).
-/

import ReleaseCatalog.Error
import ReleaseCatalog.Link
import ReleaseCatalog.Time.Timestamp
import ReleaseCatalog.Version.Downloads
import ReleaseCatalog.Version.Notes

namespace ReleaseCatalog

/-- The links of a version. A caller may set the spatial one only. -/
structure VersionLinks where
  dataset : Option Link := none
  dimensions : Option Link := none
  edition : Option Link := none
  self : Option Link := none
  spatial : Option Link := none
  version : Option Link := none
  deriving DecidableEq, Repr, Inhabited

/-- One release of an edition of a dataset. -/
structure Version where
  /-- The import instance behind this version. -/
  id : String := ""
  datasetId : String := ""
  edition : String := ""
  number : UInt32 := 0
  /-- The type of the dataset, as it was stored. -/
  type : String := ""
  state : Option State := none
  collectionId : String := ""
  releaseDate : String := ""
  temporal : Option (List TemporalFrequency) := none
  alerts : Option (List Alert) := none
  latestChanges : Option (List LatestChange) := none
  usageNotes : Option (List UsageNote) := none
  downloads : Option Downloads := none
  links : Option VersionLinks := none
  lastUpdated : Option Timestamp := none
  eTag : String := ""
  deriving DecidableEq, Repr, Inhabited

namespace Version

/-- The type of the dataset, if the stored text names one. -/
def resolvedType (version : Version) : Result DatasetType :=
  DatasetType.resolve version.type

/-- The link to the version itself, if it is set. -/
def versionLink (version : Version) : Option Link :=
  version.links.bind (·.version)

/-- The target of the link to the version itself, empty if there is none. -/
def versionHref (version : Version) : String :=
  match version.versionLink with
  | some link => link.href
  | none => ""

/-- The name of the resource that the version is, in messages and as the key of its lock. -/
def resource (version : Version) : String :=
  version.datasetId ++ "/" ++ version.edition ++ "/" ++ Decimal.text version.number.toNat

end Version

end ReleaseCatalog
