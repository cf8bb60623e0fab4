/-
The answers of the calls that read a catalog: each succeeds exactly when the document is there and
the selector admits it, and answers that document.
-/

import ReleaseCatalog.Store.Catalog

namespace ReleaseCatalog

theorem DatasetType.resolve_eq_ok_iff {text : String} {type : DatasetType} :
    resolve text = .ok type ↔ resolve? text = some type := by
  unfold resolve
  cases resolve? text <;> simp

theorem ETag.admits_iff {selector stored : String} :
    admits selector stored = true ↔ selector = any ∨ selector = stored := by
  simp [admits]

/-- A selector of its own admits no other tag. -/
theorem ETag.eq_of_admits {selector stored : String} (specific : selector ≠ any)
    (admitted : admits selector stored = true) : stored = selector :=
  ((admits_iff.mp admitted).resolve_left specific).symm

namespace Catalog

variable {catalog : Catalog}

theorem getDataset_eq_ok_iff {id : String} {dataset : Dataset} :
    catalog.getDataset id = .ok dataset ↔ catalog.datasets.get? id = some dataset := by
  unfold getDataset
  cases catalog.datasets.get? id <;> simp

/-- A dataset that is not there is not found. -/
theorem getDataset_eq_error {id : String}
    (missing : ¬∃ dataset, catalog.datasets.get? id = some dataset) :
    catalog.getDataset id = .error .datasetNotFound := by
  unfold getDataset
  rw [Option.eq_none_iff_forall_ne_some.mpr fun dataset found => missing ⟨dataset, found⟩]

theorem getDatasetType_eq_ok_iff {id : String} {authorised : Bool} {type : DatasetType} :
    catalog.getDatasetType id authorised = .ok type ↔
      ∃ dataset text, catalog.datasets.get? id = some dataset ∧
        dataset.typeFor authorised = some text ∧ DatasetType.resolve? text = some type := by
  unfold getDatasetType getDataset
  cases catalog.datasets.get? id with
  | none => simp
  | some dataset =>
    cases found : dataset.typeFor authorised with
    | none => simp [found]
    | some text => simp [found, DatasetType.resolve_eq_ok_iff]

theorem getEdition_eq_ok_iff {datasetId edition selector : String} {document : Edition} :
    catalog.getEdition datasetId edition selector = .ok document ↔
      catalog.editions.get? (datasetId, edition) = some document ∧
        ETag.admits selector document.eTag = true := by
  unfold getEdition
  cases catalog.editions.get? (datasetId, edition) with
  | none => simp
  | some found => by_cases admitted : ETag.admits selector found.eTag = true <;> grind

theorem checkEdition_eq_ok_iff {datasetId edition : String} :
    catalog.checkEdition datasetId edition none = .ok () ↔
      ∃ document, catalog.editions.get? (datasetId, edition) = some document := by
  unfold checkEdition getEdition
  cases catalog.editions.get? (datasetId, edition) <;> simp [ETag.admits_any]

/-- An edition that is not there is not found. -/
theorem checkEdition_eq_error {datasetId edition : String} {state : Option State}
    (missing : ¬∃ document, catalog.editions.get? (datasetId, edition) = some document) :
    catalog.checkEdition datasetId edition state = .error .editionNotFound := by
  unfold checkEdition getEdition
  rw [Option.eq_none_iff_forall_ne_some.mpr fun document found => missing ⟨document, found⟩]

theorem getVersion_eq_ok_iff {slot : VersionKey} {selector : String} {document : Version} :
    catalog.getVersion slot selector = .ok document ↔
      catalog.versions.get? slot = some document ∧
        ETag.admits selector document.eTag = true := by
  unfold getVersion
  cases catalog.versions.get? slot with
  | none => simp
  | some found => by_cases admitted : ETag.admits selector found.eTag = true <;> grind

/-- A version that is not there, or not under an admitted tag, is not found. -/
theorem getVersion_eq_error {slot : VersionKey} {selector : String}
    (missing : ∀ document, catalog.versions.get? slot = some document →
      ¬ETag.admits selector document.eTag = true) :
    catalog.getVersion slot selector = .error .versionNotFound := by
  unfold getVersion
  cases found : catalog.versions.get? slot with
  | none => rfl
  | some document => exact if_neg (missing document found)

end Catalog

end ReleaseCatalog
