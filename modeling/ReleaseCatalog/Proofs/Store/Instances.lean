/-
The records of instances. A catalog that was set up by adding versions has a record for every
version with an instance, and none without a name. Calls on the store never take a record away, and
only adding a version makes one. So it is known of every version whether marking its instance
succeeds, whatever was done to the catalog since it was set up.
-/

import ReleaseCatalog.Proofs.Workflow.Cascade
import ReleaseCatalog.Proofs.Workflow.Growth

namespace ReleaseCatalog

namespace Version

/-- A version has an instance exactly when it names one and is not static. -/
theorem hasInstance_iff {version : Version} :
    version.hasInstance = true ↔ version.id ≠ "" ∧ version.isStatic = false := by
  unfold hasInstance isStatic
  cases DatasetType.resolve? version.type with
  | none => simp
  | some type => cases type <;> simp [DatasetType.isStatic]

variable {updates : List Version} {earlier later : Version}

theorem Grows.isStatic (grows : Grows updates earlier later) :
    later.isStatic = earlier.isStatic := by
  unfold Version.isStatic
  rw [grows.type]

theorem Grows.hasInstance (grows : Grows updates earlier later) :
    later.hasInstance = earlier.hasInstance := by
  unfold Version.hasInstance
  rw [grows.id, grows.type]

end Version

namespace Catalog

/-! ### Calls that keep the records -/

/-- Marking an instance succeeds exactly when there is a record of it. -/
theorem publishInstance_fst (catalog : Catalog) (id : String) :
    (catalog.publishInstance id).1 =
      if (catalog.instances.get? id).isSome then .ok () else .error .instanceNotFound := by
  unfold publishInstance
  cases catalog.instances.get? id <;> rfl

/-- Whoever does not add a version writes only records that are there. -/
theorem isSome_of_record_mem_writes {catalog : Catalog} {now : Timestamp} {call : StoreCall}
    {id : String} {record : Instance} (added : ∀ version, call ≠ .addVersion version)
    (member : .record id record ∈ call.writes now catalog) :
    (catalog.instances.get? id).isSome = true := by
  cases call with
  | getDataset | getDatasetType | getEdition | checkEdition | getVersion | getInstance =>
    cases member
  | upsertDataset | upsertEdition => cases List.mem_singleton.mp member
  | associate datasetId =>
    cases found : catalog.datasets.get? datasetId <;> simp [StoreCall.writes, found] at member
  | addVersion version => exact absurd rfl (added version)
  | updateVersion path current candidate selector =>
    cases found : catalog.versions.get? current.key with
    | none => simp [StoreCall.writes, found] at member
    | some existing =>
      rw [writes_updateVersion_of_found found] at member
      split at member
      · rcases List.mem_cons.mp member with version | mirrored
        · cases version
        · cases path with
          | static => cases mirrored
          | generic =>
            obtain ⟨_, there, same⟩ := eq_of_mem_mirrorWrites mirrored
            cases same
            exact Option.isSome_of_eq_some there
      · cases member
  | publishInstance =>
    obtain ⟨_, there, same⟩ := eq_of_mem_publishWrites member
    cases same
    exact Option.isSome_of_eq_some there

/-- The catalogs have records of the same instances. -/
def SameRecords (catalog later : Catalog) : Prop :=
  ∀ id, (later.instances.get? id).isSome = (catalog.instances.get? id).isSome

theorem SameRecords.refl (catalog : Catalog) : catalog.SameRecords catalog := fun _ => rfl

theorem SameRecords.trans {catalog later last : Catalog} (same : catalog.SameRecords later)
    (again : later.SameRecords last) : catalog.SameRecords last :=
  fun id => (again id).trans (same id)

/-- Writes to records that are there make no record and take none away. -/
theorem sameRecords_writeAll {catalog : Catalog} {writes : List Write}
    (there : ∀ id record, .record id record ∈ writes →
      (catalog.instances.get? id).isSome = true) :
    catalog.SameRecords (catalog.writeAll writes) := by
  intro id
  rcases catalog.get?_instances_writeAll writes id with ⟨record, member, found⟩ | ⟨-, unchanged⟩
  · rw [found, there id record member]
    rfl
  · rw [unchanged]

/-! ### Catalogs that were set up -/

/-- The versions of the catalog have records of their instances, and there is no record without a
name. -/
structure RecordsInstances (catalog : Catalog) : Prop where
  recorded {slot : VersionKey} {version : Version} :
    catalog.versions.get? slot = some version → version.hasInstance = true →
      (catalog.instances.get? version.id).isSome = true
  named : catalog.instances.get? "" = none

theorem instances_addVersion (catalog : Catalog) (now : Timestamp) (version : Version) :
    (catalog.addVersion now version).2.instances =
      if version.hasInstance then catalog.instances.put version.id version.freshInstance
      else catalog.instances := rfl

/-- Adding a version adds the record of its instance, if it has one. -/
theorem RecordsInstances.addVersion {catalog : Catalog} (records : catalog.RecordsInstances)
    (now : Timestamp) (version : Version) :
    (catalog.addVersion now version).2.RecordsInstances := by
  have kept (id : String) (there : (catalog.instances.get? id).isSome = true) :
      ((catalog.addVersion now version).2.instances.get? id).isSome = true := by
    rw [instances_addVersion]
    split
    · by_cases same : id = version.id
      · rw [same, Collection.get?_put_self]
        rfl
      · rwa [Collection.get?_put_other _ same]
    · exact there
  refine ⟨fun {slot other} found backed => ?_, ?_⟩
  · by_cases same : slot = version.key
    · subst same
      cases Option.some_inj.mp ((Collection.get?_put_self ..).symm.trans found)
      have own : version.hasInstance = true := backed
      rw [instances_addVersion, if_pos own]
      exact Option.isSome_of_eq_some (Collection.get?_put_self ..)
    · exact kept _ (records.recorded ((Collection.get?_put_other _ same _).symm.trans found) backed)
  · rw [instances_addVersion]
    split
    · next backed =>
      rw [Collection.get?_put_other _ (Version.hasInstance_iff.mp backed).1.symm, records.named]
    · exact records.named

end Catalog

/-- The calls by which a catalog is set up. -/
def StoreCall.SetsUp : StoreCall → Prop
  | addVersion _ | upsertDataset _ _ | upsertEdition _ _ _ => True
  | _ => False

namespace Catalog

/-- Catalogs that were set up, from an empty one, by adding versions and putting datasets and
editions. -/
inductive IsSetUp : Catalog → Prop
  | empty : IsSetUp {}
  | call {catalog : Catalog} (now : Timestamp) {call : StoreCall} :
    IsSetUp catalog → call.SetsUp → IsSetUp (catalog.perform now call).2

/-- Any number of such calls set a catalog up. -/
theorem IsSetUp.foldl {catalog : Catalog} (setUp : catalog.IsSetUp) (now : Timestamp)
    {calls : List StoreCall} (adds : ∀ call ∈ calls, call.SetsUp) :
    (calls.foldl (fun catalog call => (catalog.perform now call).2) catalog).IsSetUp := by
  induction calls generalizing catalog with
  | nil => exact setUp
  | cons first rest inductionHypothesis =>
    exact inductionHypothesis (setUp.call now (adds first List.mem_cons_self))
      fun call member => adds call (List.mem_cons_of_mem _ member)

theorem IsSetUp.wellFiled {catalog : Catalog} (setUp : catalog.IsSetUp) : catalog.WellFiled := by
  induction setUp with
  | empty => exact wellFiled_empty
  | call now _ _ inductionHypothesis => exact inductionHypothesis.perform now _

theorem IsSetUp.recordsInstances {catalog : Catalog} (setUp : catalog.IsSetUp) :
    catalog.RecordsInstances := by
  induction setUp with
  | empty => exact ⟨nofun, rfl⟩
  | @call catalog now call _ adds inductionHypothesis =>
    cases call with
    | addVersion version => exact inductionHypothesis.addVersion now version
    | upsertDataset id document =>
      exact ⟨inductionHypothesis.recorded, inductionHypothesis.named⟩
    | upsertEdition datasetId edition document =>
      exact ⟨inductionHypothesis.recorded, inductionHypothesis.named⟩
    | associate | getDataset | getDatasetType | getEdition | checkEdition | getVersion
    | updateVersion | getInstance | publishInstance => cases adds

/-- Of an imported version there is a record exactly when it has an instance. -/
theorem RecordsInstances.isSome_eq {catalog : Catalog} (records : catalog.RecordsInstances)
    {slot : VersionKey} {version : Version} (found : catalog.versions.get? slot = some version)
    (imported : version.isStatic = false) :
    (catalog.instances.get? version.id).isSome = version.hasInstance := by
  by_cases unnamed : version.id = ""
  · have without : version.hasInstance = false :=
      Bool.eq_false_iff.mpr fun backed => (Version.hasInstance_iff.mp backed).1 unnamed
    rw [without, unnamed, records.named]
    rfl
  · have backed := Version.hasInstance_iff.mpr ⟨unnamed, imported⟩
    rw [backed, records.recorded found backed]

end Catalog

end ReleaseCatalog
