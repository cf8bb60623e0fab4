/-
What the documents of a catalog say about themselves. A version says in which slot it stands, a
dataset and a record say under which name they are kept, and versions and editions carry the hash
of their own content. A write takes its place from one argument, its content from another and its
identity from the stored document, and whatever these are, the documents stay right about
themselves.
-/

import ReleaseCatalog.Proofs.Store.Operations
import ReleaseCatalog.Proofs.Store.Writes

namespace ReleaseCatalog

/-! ### Documents that are right about themselves -/

/-- The document of a write is right about where it is put and about its own tag. -/
def Write.IsSound : Write → Prop
  | dataset id document => document.id = id
  | edition _ document => document.eTag = document.hash
  | version slot document => document.key = slot ∧ document.eTag = document.hash
  | record id document => document.id = id

namespace Catalog

/-- Every document is right about where it stands and about its own tag. -/
structure IsSound (catalog : Catalog) : Prop where
  filed : catalog.WellFiled
  versionTag {slot : VersionKey} {version : Version} :
    catalog.versions.get? slot = some version → version.eTag = version.hash
  editionTag {key : String × String} {edition : Edition} :
    catalog.editions.get? key = some edition → edition.eTag = edition.hash
  datasetId {id : String} {dataset : Dataset} :
    catalog.datasets.get? id = some dataset → dataset.id = id
  recordId {id : String} {record : Instance} :
    catalog.instances.get? id = some record → record.id = id

theorem isSound_empty : IsSound {} :=
  ⟨wellFiled_empty, nofun, nofun, nofun, nofun⟩

theorem IsSound.writeAll {catalog : Catalog} (sound : catalog.IsSound) {writes : List Write}
    (own : ∀ change ∈ writes, change.IsSound) : (catalog.writeAll writes).IsSound where
  filed := by
    refine sound.filed.writeAll fun change member => ?_
    cases change with
    | version => exact (own _ member).1
    | dataset | edition | record => trivial
  versionTag {slot version} found := by
    rcases catalog.get?_versions_writeAll writes slot with ⟨document, member, put⟩ | ⟨-, same⟩
    · cases put.symm.trans found
      exact (own _ member).2
    · exact sound.versionTag (same.symm.trans found)
  editionTag {key edition} found := by
    rcases catalog.get?_editions_writeAll writes key with ⟨document, member, put⟩ | ⟨-, same⟩
    · cases put.symm.trans found
      exact own _ member
    · exact sound.editionTag (same.symm.trans found)
  datasetId {id dataset} found := by
    rcases catalog.get?_datasets_writeAll writes id with ⟨document, member, put⟩ | ⟨-, same⟩
    · cases put.symm.trans found
      exact own _ member
    · exact sound.datasetId (same.symm.trans found)
  recordId {id record} found := by
    rcases catalog.get?_instances_writeAll writes id with ⟨document, member, put⟩ | ⟨-, same⟩
    · cases put.symm.trans found
      exact own _ member
    · exact sound.recordId (same.symm.trans found)

/-- The writes for a version that is right about itself are sound. -/
theorem IsSound.isSound_of_mem_versionWrites {catalog : Catalog} (sound : catalog.IsSound)
    {path : WritePath} {slot : VersionKey} {stored : Version} (own : stored.key = slot)
    (tagged : stored.eTag = stored.hash) {change : Write}
    (member : change ∈ catalog.versionWrites path slot stored) : change.IsSound := by
  rcases List.mem_cons.mp member with rfl | mirrored
  · exact ⟨own, tagged⟩
  · cases path with
    | static => cases mirrored
    | generic =>
      obtain ⟨record, there, rfl⟩ := eq_of_mem_mirrorWrites mirrored
      have named : record.id = stored.id := sound.recordId there
      exact named

/-- Whatever the arguments of a call say, it writes documents that are right about themselves. -/
theorem IsSound.isSound_of_mem_writes {catalog : Catalog} (sound : catalog.IsSound)
    {now : Timestamp} {call : StoreCall} {change : Write}
    (member : change ∈ call.writes now catalog) : change.IsSound := by
  cases call with
  | getDataset | getDatasetType | getEdition | checkEdition | getVersion | getInstance =>
    cases member
  | upsertDataset =>
    rw [List.mem_singleton.mp member]
    rfl
  | upsertEdition _ _ document =>
    rw [List.mem_singleton.mp member]
    exact document.stamp_eTag
  | associate id =>
    cases found : catalog.datasets.get? id with
    | none => simp [StoreCall.writes, found] at member
    | some dataset =>
      simp only [StoreCall.writes, found, List.mem_singleton] at member
      have named : dataset.id = id := sound.datasetId found
      rw [member]
      exact named
  | addVersion version =>
    rcases List.mem_append.mp member with record | added
    · split at record
      · rw [List.mem_singleton.mp record]
        rfl
      · cases record
    · rw [List.mem_singleton.mp added]
      exact ⟨rfl, version.stampNew_eTag now⟩
  | updateVersion path current candidate selector =>
    cases found : catalog.versions.get? current.key with
    | none => simp [StoreCall.writes, found] at member
    | some existing =>
      rw [writes_updateVersion_of_found found] at member
      split at member
      · have filed := (Version.key_stamp now existing candidate).trans (sound.filed _ _ found)
        exact sound.isSound_of_mem_versionWrites filed (Version.stamp_eTag now existing candidate)
          member
      · cases member
  | publishInstance id =>
    obtain ⟨record, there, rfl⟩ := eq_of_mem_publishWrites member
    have named : record.id = id := sound.recordId there
    exact named

theorem IsSound.perform {catalog : Catalog} (sound : catalog.IsSound) (now : Timestamp)
    (call : StoreCall) : (catalog.perform now call).2.IsSound := by
  rw [perform_eq_writeAll]
  exact sound.writeAll fun _ member => sound.isSound_of_mem_writes member

/-! ### Updates keep the slots -/

/-- Every slot holds the version that it held, as far as the name of its instance tells. -/
theorem id_updateVersion (catalog : Catalog) (now : Timestamp) (path : WritePath)
    (current candidate : Version) (selector : String) (slot : VersionKey) :
    ((catalog.updateVersion now path current candidate selector).2.versions.get? slot).map (·.id) =
      (catalog.versions.get? slot).map (·.id) := by
  cases found : catalog.versions.get? current.key with
  | none => simp [updateVersion, found]
  | some existing =>
    rw [updateVersion_of_found found]
    split
    · rw [writeAll_versionWrites]
      by_cases here : slot = current.key
      · subst here
        rw [Collection.get?_put_self, found]
        rfl
      · rw [Collection.get?_put_other _ here]
    · rfl

/-- A call that fails leaves the catalog as it was. -/
theorem perform_eq_self_of_error {now : Timestamp} {catalog : Catalog} {call : StoreCall}
    {error : CatalogError} (failed : (catalog.perform now call).1 = .error error) :
    (catalog.perform now call).2 = catalog := by
  rw [perform_eq_writeAll, writes_eq_nil_of_error failed, writeAll_nil]

end Catalog

namespace World

/-! ### Any use of a store -/

/-- Operations on a store in memory leave a store in memory, and what its calls keep is kept. -/
theorem operateAll_memory {holds : Catalog → Prop}
    (keeps : ∀ {catalog : Catalog} (now : Timestamp) (call : StoreCall), holds catalog →
      holds (catalog.perform now call).2)
    {world : World} (alone : world.background = []) {catalog : Catalog}
    (inMemory : world.backend = .memory catalog) (start : holds catalog)
    (visits : List (Timestamp × Operation)) :
    ∃ last, (world.operateAll visits).2.backend = .memory last ∧ holds last := by
  induction visits generalizing world catalog with
  | nil => exact ⟨catalog, inMemory, start⟩
  | cons visit rest inductionHypothesis =>
    obtain ⟨now, operation⟩ := visit
    have silent : world.backend.IsSilent := inMemory ▸ Backend.isSilent_memory catalog
    obtain ⟨clock, ran⟩ := @operate_eq { world with today := now } alone silent operation
    rw [operateAll_cons, ran]
    cases operation with
    | store call => exact inductionHypothesis alone (by rw [inMemory]; rfl) (keeps now call start)
    | acquire | release => exact inductionHypothesis alone inMemory start

/-- However a store in memory was used, its documents are right about themselves: every version
stands in the slot that it names, every dataset and every record under its name, and versions and
editions carry the hash of their content. An update of a version moves no version and makes and
removes none, whatever its arguments say that they are, and one that fails changes nothing. -/
theorem operateAll_memory_isSound (patience : Duration) (visits : List (Timestamp × Operation)) :
    ∃ catalog, ((fresh patience (.memory {})).operateAll visits).2.backend = .memory catalog ∧
      catalog.IsSound ∧
      ∀ now path current candidate selector,
        let update := catalog.perform now (.updateVersion path current candidate selector)
        (∀ slot, (update.2.versions.get? slot).map (·.id) =
          (catalog.versions.get? slot).map (·.id)) ∧
        ∀ error, update.1 = .error error → update.2 = catalog := by
  obtain ⟨catalog, inMemory, sound⟩ := @operateAll_memory Catalog.IsSound
    (fun now call sound => sound.perform now call) (fresh patience (.memory {})) rfl {} rfl
    Catalog.isSound_empty visits
  refine ⟨catalog, inMemory, sound, fun now path current candidate selector => ⟨?_, ?_⟩⟩
  · exact catalog.id_updateVersion now path current candidate selector
  · exact fun error => Catalog.perform_eq_self_of_error

end World

end ReleaseCatalog
