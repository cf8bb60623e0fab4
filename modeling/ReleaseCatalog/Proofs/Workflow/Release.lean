/-
What a publication leaves behind. A version that was published belongs to no collection; its edition
and its dataset show to everybody the half that was being edited, marked published and pointed at
the version; the record of an imported one is marked as well. All other documents are as they were.

The steps succeed only when they have found all that the promotion of the parents needs, so that
nothing more has to be assumed than that the request succeeded. On the way calls may have failed,
and the version may have been written at the second attempt.
-/

import ReleaseCatalog.Proofs.Workflow.Resumption

namespace ReleaseCatalog

open Program (Ensures Event Runs)

namespace VersionDetails

/-- The second catalog is the first after a release was published that has the link. -/
structure Releases (details : VersionDetails) (start last : Catalog) (release : Version)
    (link : Link) : Prop where
  version : last.versions.get? details.slot = some release
  state : release.state = some .published
  collection : release.collectionId = ""
  linked : release.versionLink = some link
  edition : ∃ before after now,
    start.editions.get? (details.datasetId, details.edition) = some before ∧
      last.editions.get? (details.datasetId, details.edition) = some after ∧
      after.id = before.id ∧ after.eTag = after.hash ∧ after.current = after.next ∧
      after.next = some { before.next.getD {} with
        state := some .published
        links := some { (before.next.getD {}).links.getD {} with latestVersion := some link }
        lastUpdated := some now }
  dataset : ∃ before half after now, start.datasets.get? details.datasetId = some before ∧
    half = (before.next <|> before.current).getD { id := before.id } ∧
    last.datasets.get? details.datasetId = some after ∧ after.id = details.datasetId ∧
    after.current = after.next ∧ after.next = some { half with
      state := some .published
      collectionId := ""
      links := some { half.links.getD {} with
        latestVersion := some ⟨Decimal.text release.number.toNat, link.href⟩ }
      lastUpdated := some now }
  record : release.isStatic = false → ∃ before, start.instances.get? release.id = some before ∧
    last.instances.get? release.id =
      some { before with isPublished := true, state := some .published }
  otherVersions {slot : VersionKey} : slot ≠ details.slot →
    last.versions.get? slot = start.versions.get? slot
  otherEditions {key : String × String} : key ≠ (details.datasetId, details.edition) →
    last.editions.get? key = start.editions.get? key
  otherDatasets {id : String} : id ≠ details.datasetId →
    last.datasets.get? id = start.datasets.get? id
  otherInstances {id : String} : (release.isStatic = false → id ≠ release.id) →
    last.instances.get? id = start.instances.get? id

section Cascade

variable {details : VersionDetails} {update stored : Version} {catalog : Catalog}
  {dataset : Dataset}

/-- The cascade of a publication puts the stamped release into its slot and leaves the other slots
alone. -/
theorem versions_writeAll_cascade
    (foundVersion : catalog.versions.get? details.slot = some stored)
    (foundDataset : catalog.datasets.get? details.datasetId = some dataset)
    (published : (Version.combine stored update).state = some .published) (times : CascadeTimes) :
    (∃ now, (catalog.writeAll (details.cascade update catalog times)).versions.get? details.slot =
      some (Version.stamp now stored (Version.combine stored update))) ∧
    ∀ slot, slot ≠ details.slot →
      (catalog.writeAll (details.cascade update catalog times)).versions.get? slot =
        catalog.versions.get? slot := by
  have only (change : Write) (member : change ∈ details.cascade update catalog times) :=
    isOfPublication_of_mem_cascade foundVersion foundDataset published member
  constructor
  · rcases catalog.get?_versions_writeAll (details.cascade update catalog times) details.slot with
      ⟨_, member, put⟩ | ⟨unwritten, -⟩
    · cases only _ member with
      | version now => exact ⟨now, put⟩
    · refine absurd ?_ (unwritten
        (Version.stamp times.version stored (Version.combine stored update)))
      rw [cascade_of_published foundVersion foundDataset published]
      exact List.mem_append_left _ (List.mem_append_left _ List.mem_cons_self)
  · intro slot other
    rcases catalog.get?_versions_writeAll (details.cascade update catalog times) slot with
      ⟨_, member, -⟩ | ⟨-, same⟩
    · cases only _ member with
      | version => exact absurd rfl other
    · exact same

/-- The cascade of a release that has found what it needs publishes it, and changes nothing else. -/
theorem releases_writeAll_cascade
    (foundVersion : catalog.versions.get? details.slot = some stored)
    (foundDataset : catalog.datasets.get? details.datasetId = some dataset)
    (published : (Version.combine stored update).state = some .published)
    (releasable : details.Releasable catalog (Version.combine stored update))
    (times : CascadeTimes) :
    ∃ now link, details.Releases catalog
      (catalog.writeAll (details.cascade update catalog times))
      (Version.stamp now stored (Version.combine stored update)) link := by
  obtain ⟨⟨now, written⟩, otherVersions⟩ :=
    versions_writeAll_cascade foundVersion foundDataset published times
  have publishes := publishes_writeAll_cascade foundVersion foundDataset published times
  obtain ⟨⟨edition, foundEdition, link, linked, aimed⟩, record⟩ := releasable
  have href : (Version.combine stored update).versionHref = link.href := by
    simp [Version.versionHref, linked]
  generalize catalog.writeAll (details.cascade update catalog times) = last at *
  refine ⟨now, link, written, published,
    Version.combine_collectionId_of_published stored update published, linked, ?_, ?_,
    fun imported => ?_, otherVersions _, fun other => ?_, fun other => ?_, fun other => ?_⟩
  · obtain ⟨later, promoted⟩ := publishes.editions (details.datasetId, details.edition)
    rw [foundEdition, Option.map_some, promotedEdition, if_pos rfl, linked,
      edition.promote_of_leads later aimed] at promoted
    exact ⟨edition, _, later, foundEdition, promoted, rfl, Edition.stamp_eTag _, rfl, rfl⟩
  · obtain ⟨later, promoted⟩ := publishes.datasets details.datasetId
    rw [foundDataset, Option.map_some, promotedDataset, if_pos rfl] at promoted
    refine ⟨dataset, _, _, later, foundDataset, rfl, promoted, rfl, rfl, ?_⟩
    simp only [Dataset.promote, DatasetHalf.publish, DatasetHalf.withLatestVersion, href]
    rfl
  · obtain ⟨before, found⟩ := record imported
    have marked := publishes.instances (Version.combine stored update).id
    rw [found, Option.map_some, Version.markedRecord, if_pos ⟨imported, rfl⟩] at marked
    exact ⟨before, found, marked⟩
  · obtain ⟨later, same⟩ := publishes.editions _
    rw [same, promotedEdition_other other, Option.map_id']
  · obtain ⟨later, same⟩ := publishes.datasets _
    rw [same, promotedDataset_other other, Option.map_id']
  · rw [publishes.instances]
    have unmarked : (Version.combine stored update).markedRecord _ = fun record => record :=
      funext fun _ => if_neg fun both => other both.1 both.2
    rw [unmarked, Option.map_id']

end Cascade

end VersionDetails

/-! ### From the request to the steps under its lock -/

namespace Machine

variable {machine : Machine} {identifiers : VersionIdentifiers} {details : VersionDetails}
  {update version : Version} {options : AmendOptions} {site last : Site}
  {events : List (Event Call.Answer Site)}

/-- A request that succeeds has found the catalog, and leaves it, as the steps under its lock do. -/
theorem exists_runs_lockedInTime
    (run : Runs Request.disturbed (machine.amendVersion details update options) site events
      (some (.ok version)) last) :
    ∃ before made after, before.catalog = site.catalog ∧ last.catalog = after.catalog ∧
      Runs Request.disturbed (machine.lockedInTime details update options) before made
        (some (.ok version)) after := by
  have alone (state after : Site) : ¬Request.disturbed.outside state after := id
  obtain ⟨kind, looked, _, _, looking, run, -⟩ := run.of_bind
  obtain ⟨calendar, rfl⟩ := looking.ends alone
    (Request.ensures_ofSteps Request.relays_disturbed (ensures_lockKind details))
  obtain ⟨answer, before, _, _, acquiring, run, -⟩ := run.of_bind
  have found := (acquiring.ends alone (Request.ensures_call_unwritten rfl)).catalog
  rw [Site.make_nil] at found
  match answer with
  | .error error =>
    obtain ⟨-, failed, -⟩ := run.of_done
    cases failed
  | .ok token =>
    obtain ⟨result, after, made, _, locked, run, -⟩ := run.of_bind
    obtain ⟨_, released, _, _, releasing, run, -⟩ := run.of_bind
    have left := (releasing.ends alone (Request.ensures_call_unwritten rfl)).catalog
    obtain ⟨-, same, others⟩ := run.of_done
    cases same
    rcases others.cases_head with rfl | ⟨_, other, -⟩
    · exact ⟨before, made, after, found, left, locked⟩
    · exact (alone _ _ other).elim

/-- A request that succeeds has found the version and its dataset, and has carried the cascade of
the version out as a whole. -/
theorem exists_cascade_of_runs (standard : machine.handlers = {})
    (named : identifiers.resolve = .ok details) (filed : site.catalog.WellFiled)
    (run : Runs Request.disturbed (machine.amend identifiers update options) site events
      (some (.ok version)) last) :
    ∃ times dataset stored, site.catalog.datasets.get? details.datasetId = some dataset ∧
      site.catalog.versions.get? details.slot = some stored ∧
      ((Version.combine stored update).state = some .published →
        details.Releasable site.catalog (Version.combine stored update)) ∧
      last.catalog = site.catalog.writeAll (details.cascade update site.catalog times) := by
  have alone (state after : Site) : ¬Request.disturbed.outside state after := id
  unfold amend at run
  simp only [named] at run
  by_cases unknown : update.type ≠ "" ∧ DatasetType.resolve? update.type = none
  · rw [if_pos unknown] at run
    obtain ⟨-, failed, -⟩ := run.of_done
    cases failed
  · rw [if_neg unknown] at run
    obtain ⟨before, made, after, found, left, locked⟩ := exists_runs_lockedInTime run
    rw [← found] at filed ⊢
    obtain ⟨times, writes, wrote, -, whole⟩ := locked.ends alone
      (ensures_lockedInTime (releases_locked standard details update options filed))
    obtain ⟨rfl, dataset, stored, foundDataset, foundVersion, releasable⟩ := whole version rfl
    exact ⟨times, dataset, stored, foundDataset, foundVersion, releasable,
      left.trans wrote.catalog⟩

/-- A publication that succeeds leaves behind what it should, and changes nothing else. Calls may
have failed on the way; nobody else writes meanwhile. The version is published and belongs to no
collection. Current and Next of its edition are the old Next, or an empty half, and those of its
dataset are the old Next, or else the old Current, or a fresh half, with nothing changed but what
says that the version was published. The edition keeps its identifier and has a fresh tag; the
dataset bears the identifier that it is filed under. The record of the instance, if the version is
an imported one, is marked. All other documents are as they were. -/
theorem amend_releases (standard : machine.handlers = {})
    (named : identifiers.resolve = .ok details) (filed : site.catalog.WellFiled)
    (published : details.Targets update site.catalog .published)
    (run : Runs Request.disturbed (machine.amend identifiers update options) site events
      (some (.ok version)) last) :
    ∃ stored now link, site.catalog.versions.get? details.slot = some stored ∧
      details.Releases site.catalog last.catalog
        (Version.stamp now stored (Version.combine stored update)) link := by
  obtain ⟨times, dataset, stored, foundDataset, foundVersion, releasable, left⟩ :=
    exists_cascade_of_runs standard named filed run
  have target := published stored foundVersion
  obtain ⟨now, link, releases⟩ := VersionDetails.releases_writeAll_cascade foundVersion
    foundDataset target (releasable target) times
  rw [left]
  exact ⟨stored, now, link, foundVersion, releases⟩

/-- The version of the sample is published. -/
theorem amend_releases_sample :
    let machine : Machine := {}
    let identifiers : VersionIdentifiers := ⟨"cpih01", "time-series", "1"⟩
    let details : VersionDetails := ⟨"cpih01", "time-series", 1⟩
    let update : Version := { state := some .published }
    let request := machine.amend identifiers update { hasDownloads := true }
    machine.handlers = {} ∧ identifiers.resolve = .ok details ∧ Site.sample.catalog.WellFiled ∧
      details.Targets update Site.sample.catalog .published ∧
      ∃ events version last, Runs Request.disturbed request Site.sample events
          (some (.ok version)) last ∧
        ∃ stored now link, Site.sample.catalog.versions.get? details.slot = some stored ∧
          details.Releases Site.sample.catalog last.catalog
            (Version.stamp now stored (Version.combine stored update)) link := by
  intro machine identifiers details update request
  have named : identifiers.resolve = .ok details := VersionIdentifiers.resolve_sample
  have targets : details.Targets update Site.sample.catalog .published :=
    VersionDetails.targets_of_state rfl
  obtain ⟨events, run⟩ := Program.exists_runs_run Request.disturbed Site.perform
    (fun call site => site.answers_perform call) request Site.sample
  have succeeds : (request.run Site.perform Site.sample).1.isOk = true := by decide +kernel
  obtain ⟨version, succeeded⟩ : ∃ version,
      (request.run Site.perform Site.sample).1 = .ok version := by
    cases outcome : (request.run Site.perform Site.sample).1 with
    | ok version => exact ⟨version, rfl⟩
    | error error => cases outcome ▸ succeeds
  rw [succeeded] at run
  exact ⟨rfl, named, Site.wellFiled_sample, targets, events, version, _, run,
    amend_releases rfl named Site.wellFiled_sample targets run⟩

end Machine

end ReleaseCatalog
