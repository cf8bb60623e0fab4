/-
The tables of a database as one text, so that a catalog outlives the program that amends it. Every
row is an array of its columns; reading refuses a text with any other shape.
-/

import ReleaseCatalog.Store.Tables

namespace ReleaseCatalog.Tables

/-- A row of the tables of tagged documents after the columns of its key. -/
def taggedColumns (row : TaggedRow) : List Json :=
  [.string row.eTag, .string row.document]

/-- The rows of the tables, each under the name of its table. -/
def archive (tables : Tables) : Json :=
  .object [
    ("datasets", .array (tables.datasets.entries.map fun (id, document) =>
      .array [.string id, .string document])),
    ("editions", .array (tables.editions.entries.map fun (key, row) =>
      .array ([.string key.1, .string key.2] ++ taggedColumns row))),
    ("versions", .array (tables.versions.entries.map fun (key, row) =>
      .array ([.string key.datasetId, .string key.edition, Json.ofCount key.number] ++
        taggedColumns row))),
    ("instances", .array (tables.instances.entries.map fun (id, row) =>
      .array [.string id, Json.ofOption (row.state.map Json.string), Json.ofNat row.isPublished]))]

/-- A row of the table of datasets. -/
def datasetRow? : Json → Option (String × String)
  | .array [.string id, .string document] => some (id, document)
  | _ => none

/-- A row of the table of editions. -/
def editionRow? : Json → Option ((String × String) × TaggedRow)
  | .array [.string datasetId, .string edition, .string eTag, .string document] =>
    some ((datasetId, edition), ⟨eTag, document⟩)
  | _ => none

/-- A row of the table of versions. -/
def versionRow? : Json → Option (VersionKey × TaggedRow)
  | .array [.string datasetId, .string edition, number, .string eTag, .string document] =>
    (Json.decodeCount number).map fun number => (⟨datasetId, edition, number⟩, ⟨eTag, document⟩)
  | _ => none

/-- A row of the table of instances. -/
def instanceRow? : Json → Option (String × InstanceRow)
  | .array [.string id, .null, isPublished] =>
    (Json.decodeCount isPublished).map fun flag => (id, ⟨none, flag.toNat⟩)
  | .array [.string id, .string state, isPublished] =>
    (Json.decodeCount isPublished).map fun flag => (id, ⟨some state, flag.toNat⟩)
  | _ => none

/-- The rows of a table. -/
def rows? {α : Type} (read? : Json → Option α) (name : String) (archive : Json) :
    Option (List α) := do
  (← (← archive.get? name).items?).mapM read?

/-- Reads tables from what `archive` writes. -/
def ofArchive? (archive : Json) : Option Tables := do
  some {
    datasets := ⟨← rows? datasetRow? "datasets" archive⟩
    editions := ⟨← rows? editionRow? "editions" archive⟩
    versions := ⟨← rows? versionRow? "versions" archive⟩
    instances := ⟨← rows? instanceRow? "instances" archive⟩ }

end ReleaseCatalog.Tables
