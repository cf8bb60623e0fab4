/-
Places in a catalog. A document stands in its place: under an identifier, in a slot, or under the
key of an edition. Every call names one place; a write of a version besides reaches the record of
the instance behind it. So a set of places that has with every slot the record of its version is a
region that calls can be confined to: calls that name places in a region write there only, and what
they answer and write depends on the documents there only.
-/

import ReleaseCatalog.Proofs.Store.Writes

namespace ReleaseCatalog

/-- Where a document stands in a catalog. -/
inductive Place where
  | dataset (id : String)
  | edition (key : String × String)
  | version (slot : VersionKey)
  | record (id : String)
  deriving DecidableEq, Repr

/-- What stands in a place. -/
def Place.Document : Place → Type
  | dataset _ => Dataset
  | edition _ => Edition
  | version _ => Version
  | record _ => Instance

namespace Write

/-- Where a write puts its document. -/
def place : Write → Place
  | dataset id _ => .dataset id
  | edition key _ => .edition key
  | version slot _ => .version slot
  | record id _ => .record id

/-- The document that a write puts into its place. -/
def document : (change : Write) → change.place.Document
  | dataset _ document => document
  | edition _ document => document
  | version _ document => document
  | record _ document => document

end Write

namespace Catalog

/-- The document in a place. -/
def find? (catalog : Catalog) : (place : Place) → Option place.Document
  | .dataset id => catalog.datasets.get? id
  | .edition key => catalog.editions.get? key
  | .version slot => catalog.versions.get? slot
  | .record id => catalog.instances.get? id

@[simp]
theorem find?_write_self (catalog : Catalog) (change : Write) :
    (catalog.write change).find? change.place = some change.document := by
  cases change <;> exact Collection.get?_put_self _ _ _

/-- A write leaves all other places as they were. -/
theorem find?_write_other (catalog : Catalog) {change : Write} {place : Place}
    (differ : place ≠ change.place) : (catalog.write change).find? place = catalog.find? place := by
  cases change <;> cases place <;>
    first
    | exact rfl
    | exact Collection.get?_put_other _ (fun same => differ (congrArg _ same)) _

/-- Writes leave a place as it was when none of them is for it. -/
theorem find?_writeAll_other (catalog : Catalog) {writes : List Write} {place : Place}
    (elsewhere : ∀ change ∈ writes, place ≠ change.place) :
    (catalog.writeAll writes).find? place = catalog.find? place := by
  induction writes generalizing catalog with
  | nil => rfl
  | cons first rest inductionHypothesis =>
    rw [writeAll_cons, inductionHypothesis _ fun change member =>
      elsewhere change (List.mem_cons_of_mem _ member)]
    exact find?_write_other _ (elsewhere first List.mem_cons_self)

/-- The same writes leave the same in a place in which the same was. -/
theorem find?_writeAll_congr {first second : Catalog} {place : Place}
    (same : first.find? place = second.find? place) (writes : List Write) :
    (first.writeAll writes).find? place = (second.writeAll writes).find? place := by
  induction writes generalizing first second with
  | nil => exact same
  | cons change rest inductionHypothesis =>
    refine inductionHypothesis ?_
    by_cases here : place = change.place
    · subst here
      rw [find?_write_self, find?_write_self]
    · rw [find?_write_other _ here, find?_write_other _ here, same]

end Catalog

/-! ### Regions -/

/-- Some of the places of a catalog. -/
abbrev Region := Place → Prop

namespace Region

/-- With every slot the region has the record of the version that stands there, in its own slot. -/
def IsClosed (region : Region) (catalog : Catalog) : Prop :=
  ∀ slot version, region (.version slot) → catalog.versions.get? slot = some version →
    version.key = slot ∧ region (.record version.id)

/-- Two catalogs have the same documents in the region. -/
def Agree (region : Region) (first second : Catalog) : Prop :=
  ∀ place, region place → first.find? place = second.find? place

end Region

namespace StoreCall

/-- The place that a call names. -/
def place : StoreCall → Place
  | getDataset id | upsertDataset id _ | associate id _ _ | getDatasetType id _ => .dataset id
  | getEdition datasetId edition _ | upsertEdition datasetId edition _
  | checkEdition datasetId edition _ => .edition (datasetId, edition)
  | addVersion version => .version version.key
  | getVersion datasetId edition number _ => .version ⟨datasetId, edition, number⟩
  | updateVersion _ current _ _ => .version current.key
  | getInstance id | publishInstance id => .record id

/-- A call names a place in the region; a version that it adds has its record there, too. -/
def Within (region : Region) : StoreCall → Prop
  | addVersion version => region (.version version.key) ∧ region (.record version.id)
  | call => region call.place

variable {region : Region} {catalog : Catalog} {call : StoreCall} {now : Timestamp}

theorem Within.named (within : call.Within region) : region call.place := by
  cases call with
  | addVersion version => exact within.1
  | _ => exact within

/-- A call within a closed region writes there only, and puts versions in their own slots. -/
theorem Within.place_of_mem_writes (within : call.Within region) (closed : region.IsClosed catalog)
    {change : Write} (member : change ∈ call.writes now catalog) :
    region change.place ∧ ∀ slot version, change = .version slot version →
      version.key = slot ∧ region (.record version.id) := by
  have named := within.named
  cases call with
  | getDataset | getDatasetType | getEdition | checkEdition | getVersion | getInstance =>
    cases member
  | upsertDataset | upsertEdition =>
    rw [List.mem_singleton.mp member]
    exact ⟨named, fun _ _ => Write.noConfusion⟩
  | associate id =>
    unfold StoreCall.writes at member
    cases found : catalog.datasets.get? id with
    | none => simp [found] at member
    | some dataset =>
      simp only [found, List.mem_singleton] at member
      rw [member]
      exact ⟨named, fun _ _ => Write.noConfusion⟩
  | addVersion version =>
    rcases List.mem_append.mp member with record | own
    · split at record
      · rw [List.mem_singleton.mp record]
        exact ⟨within.2, fun _ _ => Write.noConfusion⟩
      · cases record
    · rw [List.mem_singleton.mp own]
      refine ⟨named, fun slot document same => ?_⟩
      cases same
      exact ⟨rfl, within.2⟩
  | updateVersion path current candidate selector =>
    cases found : catalog.versions.get? current.key with
    | none => simp [StoreCall.writes, found] at member
    | some existing =>
      obtain ⟨own, record⟩ := closed _ _ named found
      rw [Catalog.writes_updateVersion_of_found found] at member
      by_cases admitted : ETag.admits selector existing.eTag = true
      · rw [if_pos admitted] at member
        rcases List.mem_cons.mp member with rfl | mirrored
        · refine ⟨named, fun slot document same => ?_⟩
          cases same
          exact ⟨own, record⟩
        · cases path with
          | static => cases mirrored
          | generic =>
            obtain ⟨_, -, rfl⟩ := Catalog.eq_of_mem_mirrorWrites mirrored
            exact ⟨record, fun _ _ => Write.noConfusion⟩
      · simp [admitted] at member
  | publishInstance id =>
    obtain ⟨_, -, rfl⟩ := Catalog.eq_of_mem_publishWrites member
    exact ⟨named, fun _ _ => Write.noConfusion⟩

end StoreCall

namespace Region

variable {region : Region} {catalog : Catalog}

theorem IsClosed.congr {other : Catalog} (closed : region.IsClosed catalog)
    (agree : region.Agree catalog other) : region.IsClosed other :=
  fun slot version inside found =>
    closed slot version inside ((agree (.version slot) inside).trans found)

/-- A region stays closed when versions are put in their own slots and have their records there. -/
theorem IsClosed.writeAll {writes : List Write} (closed : region.IsClosed catalog)
    (own : ∀ slot version, Write.version slot version ∈ writes →
      version.key = slot ∧ region (.record version.id)) :
    region.IsClosed (catalog.writeAll writes) := by
  intro slot version inside found
  rcases Catalog.get?_versions_writeAll catalog writes slot with
    ⟨document, member, written⟩ | ⟨-, unchanged⟩
  · obtain rfl := Option.some_inj.mp (written.symm.trans found)
    exact own slot document member
  · exact closed slot version inside (unchanged.symm.trans found)

end Region

/-- An update answers by the stored version, and makes its writes by the record of its instance. -/
theorem Catalog.updateVersion_congr {first second : Catalog} {now : Timestamp} {path : WritePath}
    {current candidate existing : Version} {selector : String}
    (found : first.versions.get? current.key = some existing)
    (again : second.versions.get? current.key = some existing)
    (record : first.instances.get? existing.id = second.instances.get? existing.id) :
    (first.updateVersion now path current candidate selector).1 =
        (second.updateVersion now path current candidate selector).1 ∧
      (StoreCall.updateVersion path current candidate selector).writes now first =
        (StoreCall.updateVersion path current candidate selector).writes now second := by
  have mirrored (state : Option State) :
      first.mirrorWrites existing.id state = second.mirrorWrites existing.id state := by
    unfold mirrorWrites
    rw [record]
  have written : first.versionWrites path current.key (Version.stamp now existing candidate) =
      second.versionWrites path current.key (Version.stamp now existing candidate) := by
    cases path with
    | static => rfl
    | generic => exact congrArg (List.cons _) (mirrored _)
  rw [updateVersion_of_found found, updateVersion_of_found again,
    writes_updateVersion_of_found found, writes_updateVersion_of_found again, written]
  refine ⟨?_, rfl⟩
  by_cases admitted : ETag.admits selector existing.eTag = true <;> simp [admitted]

namespace StoreCall

variable {region : Region} {first second : Catalog} {call : StoreCall} {now : Timestamp}

/-- A call within a closed region answers by the documents there, and makes its writes by them. -/
theorem Within.congr (within : call.Within region) (closed : region.IsClosed first)
    (agree : region.Agree first second) :
    (first.perform now call).1 = (second.perform now call).1 ∧
      call.writes now first = call.writes now second := by
  have named := agree _ within.named
  cases call with
  | getDataset id =>
    refine ⟨?_, rfl⟩
    show first.getDataset id = second.getDataset id
    unfold Catalog.getDataset
    rw [show first.datasets.get? id = second.datasets.get? id from named]
  | getDatasetType id authorised =>
    refine ⟨?_, rfl⟩
    show first.getDatasetType id authorised = second.getDatasetType id authorised
    unfold Catalog.getDatasetType Catalog.getDataset
    rw [show first.datasets.get? id = second.datasets.get? id from named]
  | getEdition datasetId edition selector =>
    refine ⟨?_, rfl⟩
    show first.getEdition datasetId edition selector = second.getEdition datasetId edition selector
    unfold Catalog.getEdition
    rw [show first.editions.get? (datasetId, edition) = _ from named]
    rfl
  | checkEdition datasetId edition state =>
    refine ⟨?_, rfl⟩
    show first.checkEdition datasetId edition state = second.checkEdition datasetId edition state
    unfold Catalog.checkEdition Catalog.getEdition
    rw [show first.editions.get? (datasetId, edition) = _ from named]
    rfl
  | getVersion datasetId edition number selector =>
    refine ⟨?_, rfl⟩
    show first.getVersion ⟨datasetId, edition, number⟩ selector =
      second.getVersion ⟨datasetId, edition, number⟩ selector
    unfold Catalog.getVersion
    rw [show first.versions.get? ⟨datasetId, edition, number⟩ = _ from named]
    rfl
  | getInstance id =>
    refine ⟨?_, rfl⟩
    show first.getInstance id = second.getInstance id
    unfold Catalog.getInstance
    rw [show first.instances.get? id = second.instances.get? id from named]
  | upsertDataset | upsertEdition | addVersion => exact ⟨rfl, rfl⟩
  | associate id state version =>
    have same : first.datasets.get? id = second.datasets.get? id := named
    constructor
    · show (Catalog.associate now first id state version).1 =
        (Catalog.associate now second id state version).1
      unfold Catalog.associate
      rw [same]
      cases second.datasets.get? id <;> rfl
    · simp only [StoreCall.writes, same]
  | publishInstance id =>
    have same : first.instances.get? id = second.instances.get? id := named
    constructor
    · show (first.publishInstance id).1 = (second.publishInstance id).1
      unfold Catalog.publishInstance
      rw [same]
      cases second.instances.get? id <;> rfl
    · show first.publishWrites id = second.publishWrites id
      unfold Catalog.publishWrites
      rw [same]
  | updateVersion path current candidate selector =>
    have same : first.versions.get? current.key = second.versions.get? current.key := named
    cases found : first.versions.get? current.key with
    | some existing =>
      exact Catalog.updateVersion_congr found (same.symm.trans found)
        (agree (.record existing.id) (closed _ _ within found).2)
    | none =>
      have missing : second.versions.get? current.key = none := same.symm.trans found
      constructor
      · show (first.updateVersion now path current candidate selector).1 =
          (second.updateVersion now path current candidate selector).1
        simp only [Catalog.updateVersion, found, missing]
      · simp only [StoreCall.writes, found, missing]

/-- Catalogs that agree in a region agree there after a call within it. -/
theorem Within.agree_perform (within : call.Within region) (closed : region.IsClosed first)
    (agree : region.Agree first second) :
    region.Agree (first.perform now call).2 (second.perform now call).2 := by
  intro place inside
  rw [Catalog.perform_eq_writeAll, Catalog.perform_eq_writeAll,
    (within.congr closed agree).2]
  exact Catalog.find?_writeAll_congr (agree place inside) _

/-- A call within a closed region leaves it closed. -/
theorem Within.isClosed_perform (within : call.Within region) (closed : region.IsClosed first) :
    region.IsClosed (first.perform now call).2 := by
  rw [Catalog.perform_eq_writeAll]
  exact closed.writeAll fun slot version member =>
    (within.place_of_mem_writes closed member).2 slot version rfl

end StoreCall

end ReleaseCatalog
