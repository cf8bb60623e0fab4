/-
The writes of a catalog. Every call on a catalog does to it what a short list of writes does, each
of which puts one document into one of the four collections. The list depends on the call, on the
catalog and on the calendar, and it is empty for calls that only read and for calls that fail. What
a workflow did to a catalog can therefore be told by the list of its writes, in their order.

A catalog is well filed when every version stands in its own slot. All calls keep it so.
-/

import ReleaseCatalog.Store.Catalog

namespace ReleaseCatalog

/-- A version that replaces a stored one stands in the slot of that one. -/
theorem Version.key_stamp (now : Timestamp) (current candidate : Version) :
    (stamp now current candidate).key = current.key := rfl

/-- One document put into one of the collections of a catalog. -/
inductive Write where
  | dataset (id : String) (document : Dataset)
  | edition (key : String × String) (document : Edition)
  | version (slot : VersionKey) (document : Version)
  | record (id : String) (document : Instance)
  deriving DecidableEq, Repr

namespace Catalog

/-- The catalog after a write. -/
def write (catalog : Catalog) : Write → Catalog
  | .dataset id document => { catalog with datasets := catalog.datasets.put id document }
  | .edition key document => { catalog with editions := catalog.editions.put key document }
  | .version slot document => { catalog with versions := catalog.versions.put slot document }
  | .record id document => { catalog with instances := catalog.instances.put id document }

/-- The catalog after writes, one after another. -/
def writeAll (catalog : Catalog) (writes : List Write) : Catalog :=
  writes.foldl write catalog

@[simp]
theorem writeAll_nil (catalog : Catalog) : catalog.writeAll [] = catalog := rfl

@[simp]
theorem writeAll_cons (catalog : Catalog) (first : Write) (rest : List Write) :
    catalog.writeAll (first :: rest) = (catalog.write first).writeAll rest := rfl

theorem writeAll_append (catalog : Catalog) (first rest : List Write) :
    catalog.writeAll (first ++ rest) = (catalog.writeAll first).writeAll rest :=
  List.foldl_append

/-- After writes to a collection there is under a key what was put there last, or, if nothing was,
what was there before. -/
theorem get?_writeAll {κ ν : Type} [DecidableEq κ] {part : Catalog → Collection κ ν}
    {entry : κ → ν → Write}
    (apart : ∀ {key other : κ} {document old : ν},
      entry key document = entry other old → key = other)
    (written : ∀ (catalog : Catalog) (change : Write),
      (∃ key document, change = entry key document ∧
        part (catalog.write change) = (part catalog).put key document) ∨
      ((∀ key document, change ≠ entry key document) ∧
        part (catalog.write change) = part catalog))
    (catalog : Catalog) (writes : List Write) (key : κ) :
    (∃ document, entry key document ∈ writes ∧
      (part (catalog.writeAll writes)).get? key = some document) ∨
    ((∀ document, entry key document ∉ writes) ∧
      (part (catalog.writeAll writes)).get? key = (part catalog).get? key) := by
  induction writes generalizing catalog with
  | nil => exact .inr ⟨fun _ => List.not_mem_nil, rfl⟩
  | cons first rest inductionHypothesis =>
    rw [writeAll_cons]
    rcases inductionHypothesis (catalog.write first) with ⟨document, member, found⟩ | ⟨none, same⟩
    · exact .inl ⟨document, List.mem_cons_of_mem _ member, found⟩
    · rcases written catalog first with ⟨other, document, rfl, put⟩ | ⟨elsewhere, unchanged⟩
      · by_cases here : key = other
        · subst here
          rw [put, Collection.get?_put_self] at same
          exact .inl ⟨document, List.mem_cons_self, same⟩
        · rw [put, Collection.get?_put_other _ here] at same
          refine .inr ⟨fun document member => ?_, same⟩
          rcases List.mem_cons.mp member with this | later
          · exact here (apart this)
          · exact none document later
      · rw [unchanged] at same
        refine .inr ⟨fun document member => ?_, same⟩
        rcases List.mem_cons.mp member with this | later
        · exact elsewhere _ _ this.symm
        · exact none document later

theorem get?_datasets_writeAll (catalog : Catalog) (writes : List Write) (id : String) :
    (∃ document, Write.dataset id document ∈ writes ∧
      (catalog.writeAll writes).datasets.get? id = some document) ∨
    ((∀ document, Write.dataset id document ∉ writes) ∧
      (catalog.writeAll writes).datasets.get? id = catalog.datasets.get? id) := by
  refine @get?_writeAll _ _ _ Catalog.datasets Write.dataset
    (fun same => (Write.dataset.inj same).1) (fun catalog change => ?_) catalog writes id
  cases change with
  | dataset id document => exact .inl ⟨id, document, rfl, rfl⟩
  | edition | version | record => exact .inr ⟨fun _ _ => Write.noConfusion, rfl⟩

theorem get?_editions_writeAll (catalog : Catalog) (writes : List Write) (key : String × String) :
    (∃ document, Write.edition key document ∈ writes ∧
      (catalog.writeAll writes).editions.get? key = some document) ∨
    ((∀ document, Write.edition key document ∉ writes) ∧
      (catalog.writeAll writes).editions.get? key = catalog.editions.get? key) := by
  refine @get?_writeAll _ _ _ Catalog.editions Write.edition
    (fun same => (Write.edition.inj same).1) (fun catalog change => ?_) catalog writes key
  cases change with
  | edition key document => exact .inl ⟨key, document, rfl, rfl⟩
  | dataset | version | record => exact .inr ⟨fun _ _ => Write.noConfusion, rfl⟩

theorem get?_versions_writeAll (catalog : Catalog) (writes : List Write) (slot : VersionKey) :
    (∃ document, Write.version slot document ∈ writes ∧
      (catalog.writeAll writes).versions.get? slot = some document) ∨
    ((∀ document, Write.version slot document ∉ writes) ∧
      (catalog.writeAll writes).versions.get? slot = catalog.versions.get? slot) := by
  refine @get?_writeAll _ _ _ Catalog.versions Write.version
    (fun same => (Write.version.inj same).1) (fun catalog change => ?_) catalog writes slot
  cases change with
  | version slot document => exact .inl ⟨slot, document, rfl, rfl⟩
  | dataset | edition | record => exact .inr ⟨fun _ _ => Write.noConfusion, rfl⟩

theorem get?_instances_writeAll (catalog : Catalog) (writes : List Write) (id : String) :
    (∃ document, Write.record id document ∈ writes ∧
      (catalog.writeAll writes).instances.get? id = some document) ∨
    ((∀ document, Write.record id document ∉ writes) ∧
      (catalog.writeAll writes).instances.get? id = catalog.instances.get? id) := by
  refine @get?_writeAll _ _ _ Catalog.instances Write.record (fun same => (Write.record.inj same).1)
    (fun catalog change => ?_) catalog writes id
  cases change with
  | record id document => exact .inl ⟨id, document, rfl, rfl⟩
  | dataset | edition | version => exact .inr ⟨fun _ _ => Write.noConfusion, rfl⟩

/-! ### The writes of a call -/

/-- The write that carries a state over to the record of an instance, if there is one. -/
def mirrorWrites (catalog : Catalog) (id : String) (state : Option State) : List Write :=
  if id = "" then []
  else
    match catalog.instances.get? id with
    | none => []
    | some record => [.record id { record with state := state }]

/-- The writes by which a version takes the place of the stored one: its slot first, and then for
the generic path the state of its instance. -/
def versionWrites (catalog : Catalog) (path : WritePath) (slot : VersionKey) (stored : Version) :
    List Write :=
  .version slot stored ::
    match path with
    | .generic => catalog.mirrorWrites stored.id stored.state
    | .static => []

/-- The write that marks an instance published, if there is a record of it. -/
def publishWrites (catalog : Catalog) (id : String) : List Write :=
  match catalog.instances.get? id with
  | none => []
  | some record => [.record id { record with isPublished := true, state := some .published }]

end Catalog

/-- The writes of a call, in the order in which they are made. -/
def StoreCall.writes (now : Timestamp) (catalog : Catalog) : StoreCall → List Write
  | upsertDataset id document => [.dataset id { document with id := id }]
  | associate id state version =>
    match catalog.datasets.get? id with
    | none => []
    | some dataset => [.dataset id (dataset.associateNext id now state version)]
  | upsertEdition datasetId edition document => [.edition (datasetId, edition) document.stamp]
  | addVersion version =>
    let stored := version.stampNew now
    (if stored.hasInstance then [.record stored.id stored.freshInstance] else []) ++
      [.version stored.key stored]
  | updateVersion path current candidate selector =>
    match catalog.versions.get? current.key with
    | none => []
    | some existing =>
      if ETag.admits selector existing.eTag then
        catalog.versionWrites path current.key (Version.stamp now existing candidate)
      else []
  | publishInstance id => catalog.publishWrites id
  | _ => []

namespace Catalog

theorem writeAll_mirrorWrites (catalog : Catalog) (id : String) (state : Option State) :
    catalog.writeAll (catalog.mirrorWrites id state) =
      { catalog with
        instances :=
          if id ≠ "" then
            catalog.instances.modify id fun record => { record with state := state }
          else catalog.instances } := by
  unfold mirrorWrites Collection.modify
  by_cases empty : id = ""
  · simp [empty]
  · cases found : catalog.instances.get? id <;> simp [empty, write]

/-- Writing a version does not touch the records of instances. -/
theorem mirrorWrites_write_version (catalog : Catalog) (slot : VersionKey) (document : Version)
    (id : String) (state : Option State) :
    (catalog.write (.version slot document)).mirrorWrites id state =
      catalog.mirrorWrites id state := rfl

theorem eq_of_mem_mirrorWrites {catalog : Catalog} {id : String} {state : Option State}
    {change : Write} (member : change ∈ catalog.mirrorWrites id state) :
    ∃ record, catalog.instances.get? id = some record ∧
      change = .record id { record with state := state } := by
  unfold mirrorWrites at member
  by_cases empty : id = ""
  · simp [empty] at member
  · rw [if_neg empty] at member
    cases found : catalog.instances.get? id with
    | none => simp [found] at member
    | some record =>
      rw [found] at member
      exact ⟨record, rfl, List.mem_singleton.mp member⟩

theorem eq_of_mem_publishWrites {catalog : Catalog} {id : String} {change : Write}
    (member : change ∈ catalog.publishWrites id) :
    ∃ record, catalog.instances.get? id = some record ∧
      change = .record id { record with isPublished := true, state := some .published } := by
  unfold publishWrites at member
  cases found : catalog.instances.get? id with
  | none => simp [found] at member
  | some record =>
    rw [found] at member
    exact ⟨record, rfl, List.mem_singleton.mp member⟩

/-- The writes for a version put it into its slot and otherwise touch records of instances. -/
theorem eq_of_mem_versionWrites {catalog : Catalog} {path : WritePath} {slot : VersionKey}
    {stored : Version} {change : Write}
    (member : change ∈ catalog.versionWrites path slot stored) :
    change = .version slot stored ∨ ∃ id record, change = .record id record := by
  rcases List.mem_cons.mp member with rfl | mirrored
  · exact .inl rfl
  · cases path with
    | static => cases mirrored
    | generic =>
      obtain ⟨record, -, same⟩ := eq_of_mem_mirrorWrites mirrored
      exact .inr ⟨_, _, same⟩

theorem writeAll_versionWrites (catalog : Catalog) (path : WritePath) (slot : VersionKey)
    (stored : Version) :
    catalog.writeAll (catalog.versionWrites path slot stored) =
      { catalog with
        versions := catalog.versions.put slot stored
        instances :=
          if path = .generic ∧ stored.id ≠ "" then
            catalog.instances.modify stored.id fun record => { record with state := stored.state }
          else catalog.instances } := by
  cases path with
  | static => simp [versionWrites, write]
  | generic =>
    have mirrored := writeAll_mirrorWrites (catalog.write (.version slot stored)) stored.id
      stored.state
    rw [mirrorWrites_write_version] at mirrored
    simpa [versionWrites, write] using mirrored

/-- An update is answered with a conflict exactly when the stored tag is not admitted. -/
theorem updateVersion_of_found {catalog : Catalog} {current existing : Version}
    (found : catalog.versions.get? current.key = some existing) (now : Timestamp)
    (path : WritePath) (candidate : Version) (selector : String) :
    catalog.updateVersion now path current candidate selector =
      if ETag.admits selector existing.eTag then
        (.ok (Version.stamp now existing candidate).eTag,
          catalog.writeAll
            (catalog.versionWrites path current.key (Version.stamp now existing candidate)))
      else (.error (.conflict current.resource selector), catalog) := by
  unfold updateVersion ETag.check
  rw [found, writeAll_versionWrites]
  by_cases admitted : ETag.admits selector existing.eTag = true <;> simp [admitted]

/-- An update makes its writes exactly when the stored tag is admitted. -/
theorem writes_updateVersion_of_found {catalog : Catalog} {current existing : Version}
    (found : catalog.versions.get? current.key = some existing) (now : Timestamp)
    (path : WritePath) (candidate : Version) (selector : String) :
    (StoreCall.updateVersion path current candidate selector).writes now catalog =
      if ETag.admits selector existing.eTag then
        catalog.versionWrites path current.key (Version.stamp now existing candidate)
      else [] := by
  simp only [StoreCall.writes, found]

/-- A call does to a catalog what its writes do. -/
theorem perform_eq_writeAll (now : Timestamp) (catalog : Catalog) (call : StoreCall) :
    (catalog.perform now call).2 = catalog.writeAll (call.writes now catalog) := by
  cases call with
  | getDataset | getDatasetType | getEdition | checkEdition | getVersion | getInstance => rfl
  | upsertDataset | upsertEdition => rfl
  | associate id state version =>
    show (Catalog.associate now catalog id state version).2 = _
    unfold Catalog.associate
    cases found : catalog.datasets.get? id <;> simp [StoreCall.writes, found, write]
  | addVersion version =>
    show (Catalog.addVersion now catalog version).2 = _
    unfold Catalog.addVersion
    by_cases backed : (version.stampNew now).hasInstance = true <;>
      simp [StoreCall.writes, backed, write]
  | updateVersion path current candidate selector =>
    show (Catalog.updateVersion now catalog path current candidate selector).2 = _
    cases found : catalog.versions.get? current.key with
    | none => simp [updateVersion, StoreCall.writes, found]
    | some existing =>
      rw [updateVersion_of_found found]
      by_cases admitted : ETag.admits selector existing.eTag = true <;>
        simp [StoreCall.writes, found, admitted]
  | publishInstance id =>
    show (Catalog.publishInstance catalog id).2 = _
    unfold Catalog.publishInstance
    cases found : catalog.instances.get? id <;>
      simp [StoreCall.writes, publishWrites, found, write]

/-- A call that fails writes nothing. -/
theorem writes_eq_nil_of_error {now : Timestamp} {catalog : Catalog} {call : StoreCall}
    {error : CatalogError} (failed : (catalog.perform now call).1 = .error error) :
    call.writes now catalog = [] := by
  cases call with
  | getDataset | getDatasetType | getEdition | checkEdition | getVersion | getInstance => rfl
  | upsertDataset | upsertEdition | addVersion => cases failed
  | associate id state version =>
    change (Catalog.associate now catalog id state version).1 = .error error at failed
    unfold Catalog.associate at failed
    cases found : catalog.datasets.get? id with
    | none => simp [StoreCall.writes, found]
    | some dataset => simp [found] at failed
  | updateVersion path current candidate selector =>
    change (Catalog.updateVersion now catalog path current candidate selector).1 = .error error
      at failed
    cases found : catalog.versions.get? current.key with
    | none => simp [StoreCall.writes, found]
    | some existing =>
      rw [updateVersion_of_found found] at failed
      by_cases admitted : ETag.admits selector existing.eTag = true
      · simp [admitted] at failed
      · simp [StoreCall.writes, found, admitted]
  | publishInstance id =>
    change (Catalog.publishInstance catalog id).1 = .error error at failed
    unfold Catalog.publishInstance at failed
    cases found : catalog.instances.get? id with
    | none => simp [StoreCall.writes, publishWrites, found]
    | some record => simp [found] at failed

end Catalog

/-- Which writes a call may make. -/
inductive StoreCall.MayWrite (now : Timestamp) (catalog : Catalog) : StoreCall → Write → Prop
  | upsertDataset {id : String} {document stored : Dataset} :
    MayWrite now catalog (.upsertDataset id document) (.dataset id stored)
  | associate {id : String} {state : State} {version : Version} {dataset stored : Dataset} :
    catalog.datasets.get? id = some dataset →
      MayWrite now catalog (.associate id state version) (.dataset id stored)
  | upsertEdition {datasetId edition : String} {document stored : Edition} :
    MayWrite now catalog (.upsertEdition datasetId edition document)
      (.edition (datasetId, edition) stored)
  | addVersion {version : Version} :
    MayWrite now catalog (.addVersion version)
      (.version (version.stampNew now).key (version.stampNew now))
  | updateVersion {path : WritePath} {current candidate existing : Version} {selector : String} :
    catalog.versions.get? current.key = some existing →
      ETag.admits selector existing.eTag = true →
      MayWrite now catalog (.updateVersion path current candidate selector)
        (.version current.key (Version.stamp now existing candidate))
  | record {call : StoreCall} {id : String} {document : Instance} :
    MayWrite now catalog call (.record id document)

theorem StoreCall.mayWrite_of_mem_writes {now : Timestamp} {catalog : Catalog} {call : StoreCall}
    {change : Write} (member : change ∈ call.writes now catalog) :
    call.MayWrite now catalog change := by
  cases call with
  | getDataset | getDatasetType | getEdition | checkEdition | getVersion | getInstance =>
    cases member
  | upsertDataset id document =>
    rw [List.mem_singleton.mp member]
    exact .upsertDataset
  | upsertEdition datasetId edition document =>
    rw [List.mem_singleton.mp member]
    exact .upsertEdition
  | associate id =>
    unfold StoreCall.writes at member
    cases found : catalog.datasets.get? id with
    | none => simp [found] at member
    | some dataset =>
      simp only [found, List.mem_singleton] at member
      rw [member]
      exact .associate found
  | addVersion version =>
    rcases List.mem_append.mp member with record | added
    · split at record
      · rw [List.mem_singleton.mp record]
        exact .record
      · cases record
    · rw [List.mem_singleton.mp added]
      exact .addVersion
  | updateVersion path current candidate selector =>
    cases found : catalog.versions.get? current.key with
    | none => simp [StoreCall.writes, found] at member
    | some existing =>
      rw [Catalog.writes_updateVersion_of_found found] at member
      by_cases admitted : ETag.admits selector existing.eTag = true
      · rw [if_pos admitted] at member
        rcases Catalog.eq_of_mem_versionWrites member with rfl | ⟨_, _, rfl⟩
        · exact .updateVersion found admitted
        · exact .record
      · simp [admitted] at member
  | publishInstance id =>
    obtain ⟨_, -, rfl⟩ := Catalog.eq_of_mem_publishWrites member
    exact .record

/-- A call that writes a version adds it, or replaces a stored one whose tag was admitted. -/
theorem Catalog.version_mem_writes {now : Timestamp} {catalog : Catalog} {call : StoreCall}
    {slot : VersionKey} {document : Version}
    (member : Write.version slot document ∈ call.writes now catalog) :
    (∃ version, call = .addVersion version) ∨
      ∃ path current candidate selector existing,
        call = .updateVersion path current candidate selector ∧ slot = current.key ∧
        catalog.versions.get? current.key = some existing ∧
        ETag.admits selector existing.eTag = true ∧
        document = Version.stamp now existing candidate := by
  cases StoreCall.mayWrite_of_mem_writes member with
  | addVersion => exact .inl ⟨_, rfl⟩
  | updateVersion found admitted => exact .inr ⟨_, _, _, _, _, rfl, rfl, found, admitted, rfl⟩

namespace Catalog

/-! ### Slots -/

/-- Every version stands in its own slot. -/
def WellFiled (catalog : Catalog) : Prop :=
  ∀ slot version, catalog.versions.get? slot = some version → version.key = slot

end Catalog

namespace Write

/-- A write of a version puts it into its own slot. -/
def IsFiled : Write → Prop
  | version slot document => document.key = slot
  | _ => True

/-- The version that a write puts into a slot. -/
def documentAt (slot : VersionKey) : Write → Option Version
  | version other document => if other = slot then some document else none
  | _ => none

/-- The versions that writes put into a slot, in their order. -/
def documentsAt (slot : VersionKey) (writes : List Write) : List Version :=
  writes.filterMap (documentAt slot)

theorem documentsAt_append (slot : VersionKey) (first rest : List Write) :
    documentsAt slot (first ++ rest) = documentsAt slot first ++ documentsAt slot rest :=
  List.filterMap_append

theorem mem_documentsAt_iff {slot : VersionKey} {writes : List Write} {document : Version} :
    document ∈ documentsAt slot writes ↔ version slot document ∈ writes := by
  unfold documentsAt
  rw [List.mem_filterMap]
  constructor
  · rintro ⟨change, member, put⟩
    cases change with
    | dataset | edition | record => cases put
    | version other stored =>
      obtain ⟨rfl, same⟩ : other = slot ∧ stored = document := by
        simpa [documentAt] using put
      exact same ▸ member
  · exact fun member => ⟨_, member, if_pos rfl⟩

/-- Writes have put nothing into a slot when none of them is for it. -/
theorem documentsAt_eq_nil_iff {slot : VersionKey} {writes : List Write} :
    documentsAt slot writes = [] ↔ ∀ document, version slot document ∉ writes := by
  rw [List.eq_nil_iff_forall_not_mem]
  exact forall_congr' fun document => not_congr mem_documentsAt_iff

/-- The writes for a version put one document into its slot. -/
theorem documentsAt_versionWrites (catalog : Catalog) (path : WritePath) (slot : VersionKey)
    (stored : Version) : documentsAt slot (catalog.versionWrites path slot stored) = [stored] := by
  have mirrored : documentsAt slot (match path with
      | .generic => catalog.mirrorWrites stored.id stored.state
      | .static => []) = [] := by
    refine documentsAt_eq_nil_iff.mpr fun document member => ?_
    cases path with
    | static => cases member
    | generic =>
      obtain ⟨_, -, same⟩ := Catalog.eq_of_mem_mirrorWrites member
      cases same
  have own : documentAt slot (.version slot stored) = some stored := if_pos rfl
  unfold Catalog.versionWrites documentsAt
  rw [List.filterMap_cons_some own]
  exact congrArg (stored :: ·) mirrored

end Write

namespace Catalog

theorem wellFiled_empty : WellFiled {} := by
  intro slot version found
  cases found

theorem WellFiled.write {catalog : Catalog} (filed : catalog.WellFiled) {change : Write}
    (own : change.IsFiled) : (catalog.write change).WellFiled := by
  cases change with
  | dataset | edition | record => exact filed
  | version slot document =>
    intro other version found
    by_cases same : other = slot
    · subst same
      rw [Catalog.write, Collection.get?_put_self, Option.some_inj] at found
      exact found ▸ own
    · rw [Catalog.write, Collection.get?_put_other _ same] at found
      exact filed other version found

theorem WellFiled.writeAll {catalog : Catalog} (filed : catalog.WellFiled) {writes : List Write}
    (own : ∀ change ∈ writes, change.IsFiled) : (catalog.writeAll writes).WellFiled := by
  induction writes generalizing catalog with
  | nil => exact filed
  | cons first rest inductionHypothesis =>
    exact inductionHypothesis (filed.write (own first List.mem_cons_self))
      fun change member => own change (List.mem_cons_of_mem _ member)

/-- In a well filed catalog every call files the versions that it writes. -/
theorem WellFiled.isFiled_of_mem_writes {catalog : Catalog} (filed : catalog.WellFiled)
    {now : Timestamp} {call : StoreCall} {change : Write}
    (member : change ∈ call.writes now catalog) : change.IsFiled := by
  cases StoreCall.mayWrite_of_mem_writes member with
  | upsertDataset | associate | upsertEdition | record => trivial
  | addVersion => rfl
  | updateVersion found => exact (Version.key_stamp _ _ _).trans (filed _ _ found)

/-- Every call keeps a catalog well filed. -/
theorem WellFiled.perform {catalog : Catalog} (filed : catalog.WellFiled) (now : Timestamp)
    (call : StoreCall) : (catalog.perform now call).2.WellFiled := by
  rw [perform_eq_writeAll]
  exact filed.writeAll fun _ member => filed.isFiled_of_mem_writes member

end Catalog

end ReleaseCatalog
