/-
What an association leaves behind. For an imported version Next of its dataset says that the
collection of the version works on it, and points at it; the record of its instance follows its
state, and the public half of the dataset is not touched. For a static version only the version
itself is written. All other documents are as they were.

The association is recorded from the version that was written, so that it is the stored collection
that the dataset gets, whether the update gave one or not.
-/

import ReleaseCatalog.Proofs.Store.Instances
import ReleaseCatalog.Proofs.Workflow.Release

namespace ReleaseCatalog

open Program (Event Runs)

namespace VersionDetails

/-- The second catalog is the first after a release was put into its collection. -/
structure Associates (details : VersionDetails) (start last : Catalog) (release : Version) :
    Prop where
  version : last.versions.get? details.slot = some release
  state : release.state = some .associated
  dataset : release.isStatic = false → ∃ before half after now,
    start.datasets.get? details.datasetId = some before ∧
      half = before.next.getD { id := details.datasetId } ∧
      last.datasets.get? details.datasetId = some after ∧
      after = { before with
        next := some { half with
          state := some .associated
          collectionId := release.collectionId
          links := some { half.links.getD {} with
            latestVersion := some ⟨Decimal.text release.number.toNat, release.versionHref⟩ }
          lastUpdated := some now } }
  record : release.hasInstance = true → last.instances.get? release.id =
    (start.instances.get? release.id).map fun record => { record with state := some .associated }
  editions (key : String × String) : last.editions.get? key = start.editions.get? key
  otherVersions {slot : VersionKey} : slot ≠ details.slot →
    last.versions.get? slot = start.versions.get? slot
  otherDatasets {id : String} : (release.isStatic = false → id ≠ details.datasetId) →
    last.datasets.get? id = start.datasets.get? id
  otherInstances {id : String} : (release.hasInstance = true → id ≠ release.id) →
    last.instances.get? id = start.instances.get? id

section Cascade

variable {details : VersionDetails} {update stored : Version} {catalog : Catalog}
  {dataset : Dataset}

/-- The cascade of an association puts the release into its slot, carries its state over to its
instance, and records the association on its dataset. -/
theorem writeAll_cascade_of_associated
    (foundVersion : catalog.versions.get? details.slot = some stored)
    (foundDataset : catalog.datasets.get? details.datasetId = some dataset)
    (associated : (Version.combine stored update).state = some .associated)
    (times : CascadeTimes) :
    let release := Version.stamp times.version stored (Version.combine stored update)
    catalog.writeAll (details.cascade update catalog times) =
      { catalog with
        versions := catalog.versions.put details.slot release
        datasets :=
          if release.isStatic then catalog.datasets
          else catalog.datasets.put details.datasetId
            (dataset.associateNext details.datasetId times.dataset .associated release)
        instances :=
          if release.hasInstance then
            catalog.instances.modify release.id fun record =>
              { record with state := some .associated }
          else catalog.instances } := by
  intro release
  have state : release.state = some .associated := associated
  have static : (Version.combine stored update).isStatic = release.isStatic := rfl
  have cascade : details.cascade update catalog times =
      catalog.versionWrites (.forStatic release.isStatic) details.slot release ++
        if release.isStatic then []
        else details.associationWrites dataset release times.dataset := by
    simp only [VersionDetails.cascade, foundVersion, foundDataset, parentWrites, associated, static]
    rfl
  rw [cascade, Catalog.writeAll_append, Catalog.writeAll_versionWrites, state]
  by_cases backed : release.hasInstance = true
  · obtain ⟨identified, imported⟩ := Version.hasInstance_iff.mp backed
    rw [imported, if_pos backed, if_pos ⟨rfl, identified⟩]
    rfl
  · have unmirrored : ¬(WritePath.forStatic release.isStatic = .generic ∧ release.id ≠ "") := by
      rintro ⟨generic, identified⟩
      refine backed (Version.hasInstance_iff.mpr ⟨identified, ?_⟩)
      cases other : release.isStatic with
      | false => rfl
      | true => cases other ▸ generic
    rw [if_neg backed, if_neg unmirrored]
    cases release.isStatic <;> rfl

/-- The cascade of an association records exactly the version. -/
theorem associates_writeAll_cascade
    (foundVersion : catalog.versions.get? details.slot = some stored)
    (foundDataset : catalog.datasets.get? details.datasetId = some dataset)
    (associated : (Version.combine stored update).state = some .associated)
    (times : CascadeTimes) :
    details.Associates catalog (catalog.writeAll (details.cascade update catalog times))
      (Version.stamp times.version stored (Version.combine stored update)) := by
  rw [writeAll_cascade_of_associated foundVersion foundDataset associated times]
  refine ⟨Collection.get?_put_self _ _ _, associated, fun imported => ?_, fun backed => ?_,
    fun _ => rfl, fun other => Collection.get?_put_other _ other _, fun {id} other => ?_,
    fun {id} other => ?_⟩
  · refine ⟨dataset, _, _, times.dataset, foundDataset, rfl, ?_, rfl⟩
    rw [if_neg (Bool.eq_false_iff.mp imported), Collection.get?_put_self]
    rfl
  · rw [if_pos backed, Collection.get?_modify_self]
  · by_cases static : (Version.stamp times.version stored
        (Version.combine stored update)).isStatic = true
    · rw [if_pos static]
    · rw [if_neg static, Collection.get?_put_other _ (other (Bool.eq_false_iff.mpr static))]
  · by_cases backed : (Version.stamp times.version stored
        (Version.combine stored update)).hasInstance = true
    · rw [if_pos backed, Collection.get?_modify_other _ (other backed)]
    · rw [if_neg backed]

end Cascade

end VersionDetails

namespace Machine

variable {machine : Machine} {identifiers : VersionIdentifiers} {details : VersionDetails}
  {update version : Version} {options : AmendOptions} {site last : Site}
  {events : List (Event Call.Answer Site)}

/-- An association that succeeds records exactly the version, and changes nothing else. Calls may
have failed on the way; nobody else writes meanwhile. -/
theorem amend_associates (standard : machine.handlers = {})
    (named : identifiers.resolve = .ok details) (filed : site.catalog.WellFiled)
    (associated : details.Targets update site.catalog .associated)
    (run : Runs Request.disturbed (machine.amend identifiers update options) site events
      (some (.ok version)) last) :
    ∃ stored now, site.catalog.versions.get? details.slot = some stored ∧
      details.Associates site.catalog last.catalog
        (Version.stamp now stored (Version.combine stored update)) := by
  obtain ⟨times, dataset, stored, foundDataset, foundVersion, -, left⟩ :=
    exists_cascade_of_runs standard named filed run
  rw [left]
  exact ⟨stored, times.version, foundVersion, VersionDetails.associates_writeAll_cascade
    foundVersion foundDataset (associated stored foundVersion) times⟩

/-- The version of the sample is put into another collection. -/
theorem amend_associates_sample :
    let machine : Machine := {}
    let identifiers : VersionIdentifiers := ⟨"cpih01", "time-series", "1"⟩
    let details : VersionDetails := ⟨"cpih01", "time-series", 1⟩
    let update : Version := { state := some .associated, collectionId := "collection-2" }
    let request := machine.amend identifiers update { hasDownloads := true }
    machine.handlers = {} ∧ identifiers.resolve = .ok details ∧ Site.sample.catalog.WellFiled ∧
      details.Targets update Site.sample.catalog .associated ∧
      ∃ events version last, Runs Request.disturbed request Site.sample events
          (some (.ok version)) last ∧
        ∃ stored now, Site.sample.catalog.versions.get? details.slot = some stored ∧
          details.Associates Site.sample.catalog last.catalog
            (Version.stamp now stored (Version.combine stored update)) := by
  intro machine identifiers details update request
  have named : identifiers.resolve = .ok details := VersionIdentifiers.resolve_sample
  have targets : details.Targets update Site.sample.catalog .associated :=
    VersionDetails.targets_of_state rfl
  obtain ⟨events, run⟩ := Program.exists_runs_run Request.disturbed Site.perform
    (fun call site => site.answers_perform call) request Site.sample
  have succeeds : (request.run Site.perform Site.sample).1.isOk = true := by decide +kernel
  obtain ⟨version, succeeded⟩ : ∃ version,
      (request.run Site.perform Site.sample).1 = .ok version := by
    cases outcome : (request.run Site.perform Site.sample).1 with
    | ok version => exact ⟨version, rfl⟩
    | error error => cases outcome ▸ succeeds
  rw [succeeded] at run
  exact ⟨rfl, named, Site.wellFiled_sample, targets, events, version, _, run,
    amend_associates rfl named Site.wellFiled_sample targets run⟩

end Machine

end ReleaseCatalog
