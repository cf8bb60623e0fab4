/-
How the records of instances follow the versions. A version that has an instance has a record under
its name with the state of the version, and a static version has none. The records are written by
three calls, which decide on their own whether to write one: adding a version makes it, an update
carries the new state over, and marking it published sets the state that the version was given
before. What holds the two collections together is that no two slots share a name.

Apart from that, the mark that an instance is published is never taken away: of the three calls only
the one that makes a record could do so, and it finds none under a new name.
-/

import ReleaseCatalog.Proofs.Store.Instances

namespace ReleaseCatalog

/-- What stands under the name of a version agrees with it: a record with its state if it has an
instance, and no record if it is static. -/
structure Version.Agrees (version : Version) (record : Option Instance) : Prop where
  backed : version.hasInstance = true →
    ∃ current, record = some current ∧ current.state = version.state
  bare : version.isStatic = true → record = none

/-- What is found after a document was put is this document or was there before. -/
theorem Collection.get?_put_cases {κ ν : Type} [DecidableEq κ] {collection : Collection κ ν}
    {key other : κ} {value stored : ν}
    (found : (collection.put key value).get? other = some stored) :
    (other = key ∧ stored = value) ∨ (other ≠ key ∧ collection.get? other = some stored) := by
  by_cases same : other = key
  · subst same
    rw [get?_put_self] at found
    exact .inl ⟨rfl, (Option.some_inj.mp found).symm⟩
  · rw [get?_put_other _ same] at found
    exact .inr ⟨same, found⟩

namespace Catalog

/-! ### Records under a name -/

/-- Adding a version leaves the records under other names alone. -/
theorem get?_instances_addVersion_other (catalog : Catalog) (now : Timestamp) {version : Version}
    {id : String} (differ : id ≠ version.id) :
    (catalog.addVersion now version).2.instances.get? id = catalog.instances.get? id := by
  rw [instances_addVersion]
  split
  · exact Collection.get?_put_other _ differ _
  · rfl

/-- A version that is added by a new name agrees with what then stands under it. -/
theorem agrees_addVersion (catalog : Catalog) (now : Timestamp) {version : Version}
    (unused : catalog.instances.get? version.id = none) :
    (version.stampNew now).Agrees
      ((catalog.addVersion now version).2.instances.get? version.id) := by
  rw [instances_addVersion]
  refine ⟨fun backed => ?_, fun static => ?_⟩
  · have own : version.hasInstance = true := backed
    rw [if_pos own, Collection.get?_put_self]
    exact ⟨_, rfl, rfl⟩
  · have without : ¬version.hasInstance = true := fun backed =>
      Bool.noConfusion ((Version.hasInstance_iff.mp backed).2.symm.trans static)
    rw [if_neg without, unused]

/-- The writes for a version leave the records under other names alone. -/
theorem get?_instances_versionWrites_other (catalog : Catalog) (path : WritePath)
    (slot : VersionKey) {stored : Version} {id : String} (differ : id ≠ stored.id) :
    (catalog.writeAll (catalog.versionWrites path slot stored)).instances.get? id =
      catalog.instances.get? id := by
  rw [writeAll_versionWrites]
  dsimp only
  split
  · exact Collection.get?_modify_other _ differ _
  · rfl

/-- A version that takes the place of another of its type agrees with the record under their name if
the other did. -/
theorem agrees_versionWrites (catalog : Catalog) (slot : VersionKey) {existing stored : Version}
    (named : stored.id = existing.id) (typed : stored.isStatic = existing.isStatic)
    (agrees : existing.Agrees (catalog.instances.get? existing.id)) :
    stored.Agrees ((catalog.writeAll
      (catalog.versionWrites (.forStatic stored.isStatic) slot stored)).instances.get?
        stored.id) := by
  rw [writeAll_versionWrites]
  refine ⟨fun backed => ?_, fun static => ?_⟩
  · obtain ⟨identified, imported⟩ := Version.hasInstance_iff.mp backed
    have before : existing.hasInstance = true :=
      Version.hasInstance_iff.mpr ⟨named ▸ identified, typed ▸ imported⟩
    obtain ⟨record, found, -⟩ := agrees.backed before
    have mirrored : WritePath.forStatic stored.isStatic = .generic ∧ stored.id ≠ "" :=
      ⟨by rw [imported]; rfl, identified⟩
    simp only [if_pos mirrored]
    rw [Collection.get?_modify_self, named, found]
    exact ⟨_, rfl, rfl⟩
  · have unmirrored : ¬(WritePath.forStatic stored.isStatic = .generic ∧ stored.id ≠ "") := by
      rw [static]
      exact fun mirrored => WritePath.noConfusion mirrored.1
    simp only [if_neg unmirrored]
    rw [named]
    exact agrees.bare (typed ▸ static)

theorem versions_publishInstance (catalog : Catalog) (id : String) :
    (catalog.publishInstance id).2.versions = catalog.versions := by
  unfold publishInstance
  cases catalog.instances.get? id <;> rfl

/-- Marking an instance leaves the records under other names alone. -/
theorem get?_instances_publishInstance_other (catalog : Catalog) {id other : String}
    (differ : other ≠ id) :
    (catalog.publishInstance id).2.instances.get? other = catalog.instances.get? other := by
  unfold publishInstance
  cases catalog.instances.get? id with
  | none => rfl
  | some record => exact Collection.get?_put_other _ differ _

/-- A published version agrees with the record of its instance also when this has been marked. -/
theorem agrees_publishInstance (catalog : Catalog) {version : Version}
    (published : version.state = some .published)
    (agrees : version.Agrees (catalog.instances.get? version.id)) :
    version.Agrees ((catalog.publishInstance version.id).2.instances.get? version.id) := by
  unfold publishInstance
  cases found : catalog.instances.get? version.id with
  | none => exact agrees
  | some record =>
    refine ⟨fun _ => ⟨_, Collection.get?_put_self .., published.symm⟩, fun static => ?_⟩
    cases found.symm.trans (agrees.bare static)

/-! ### Records and versions -/

/-- All versions agree with what stands under their names, which are no other versions' names, and
all names are among those that are listed. -/
structure Mirrors (names : List String) (catalog : Catalog) : Prop where
  filed : catalog.WellFiled
  versionNamed {slot : VersionKey} {version : Version} :
    catalog.versions.get? slot = some version → version.id ∈ names
  recordNamed {id : String} {record : Instance} :
    catalog.instances.get? id = some record → id ∈ names
  apart {slot other : VersionKey} {version second : Version} :
    catalog.versions.get? slot = some version → catalog.versions.get? other = some second →
      version.id = second.id → slot = other
  agrees {slot : VersionKey} {version : Version} :
    catalog.versions.get? slot = some version →
      version.Agrees (catalog.instances.get? version.id)

namespace Mirrors

variable {names : List String} {catalog : Catalog}

/-- In the beginning there are neither versions nor records. -/
theorem of_none (noVersions : ∀ slot, catalog.versions.get? slot = none)
    (noRecords : ∀ id, catalog.instances.get? id = none) : catalog.Mirrors [] where
  filed _ _ found := absurd ((noVersions _).symm.trans found) nofun
  versionNamed found := absurd ((noVersions _).symm.trans found) nofun
  recordNamed found := absurd ((noRecords _).symm.trans found) nofun
  apart found := absurd ((noVersions _).symm.trans found) nofun
  agrees found := absurd ((noVersions _).symm.trans found) nofun

/-- More names may be listed than there are. -/
theorem mono (mirrors : catalog.Mirrors names) {more : List String} (fewer : names ⊆ more) :
    catalog.Mirrors more :=
  { mirrors with
    versionNamed := fun found => fewer (mirrors.versionNamed found)
    recordNamed := fun found => fewer (mirrors.recordNamed found) }

/-- Datasets and editions do not matter. -/
theorem of_same (mirrors : catalog.Mirrors names) {other : Catalog}
    (versions : other.versions = catalog.versions)
    (instances : other.instances = catalog.instances) : other.Mirrors names := by
  obtain ⟨datasets, editions, _, _⟩ := other
  cases versions
  cases instances
  exact ⟨mirrors.filed, mirrors.versionNamed, mirrors.recordNamed, mirrors.apart, mirrors.agrees⟩

/-- What is done to one slot and under the name of its version leaves the other versions alone. -/
theorem of_slot (mirrors : catalog.Mirrors names) {later : Catalog} {more : List String}
    {slot : VersionKey} {stored : Version} (listed : names ⊆ more) (own : stored.id ∈ more)
    (filed : stored.key = slot) (agrees : stored.Agrees (later.instances.get? stored.id))
    (origin : ∀ {other version}, later.versions.get? other = some version →
      (other = slot ∧ version = stored) ∨
        (catalog.versions.get? other = some version ∧ version.id ≠ stored.id))
    (records : ∀ id, id ≠ stored.id → later.instances.get? id = catalog.instances.get? id) :
    later.Mirrors more where
  filed other version found := by
    obtain ⟨rfl, rfl⟩ | ⟨before, -⟩ := origin found
    · exact filed
    · exact mirrors.filed _ _ before
  versionNamed found := by
    obtain ⟨-, rfl⟩ | ⟨before, -⟩ := origin found
    · exact own
    · exact listed (mirrors.versionNamed before)
  recordNamed {id _} found := by
    by_cases same : id = stored.id
    · exact same ▸ own
    · exact listed (mirrors.recordNamed ((records id same).symm.trans found))
  apart one two same := by
    obtain ⟨here, rfl⟩ | ⟨before, differ⟩ := origin one <;>
      obtain ⟨there, rfl⟩ | ⟨since, apart⟩ := origin two
    · exact here.trans there.symm
    · exact absurd same.symm apart
    · exact absurd same differ
    · exact mirrors.apart before since same
  agrees found := by
    obtain ⟨-, rfl⟩ | ⟨before, differ⟩ := origin found
    · exact agrees
    · rw [records _ differ]
      exact mirrors.agrees before

/-- There is no record under a name that is not listed. -/
theorem get?_instances_eq_none (mirrors : catalog.Mirrors names) {id : String}
    (unlisted : id ∉ names) : catalog.instances.get? id = none :=
  Option.eq_none_iff_forall_ne_some.mpr fun _ found => unlisted (mirrors.recordNamed found)

/-- A version is added by a name that is not listed yet. -/
theorem addVersion (mirrors : catalog.Mirrors names) {version : Version}
    (unlisted : version.id ∉ names) (now : Timestamp) :
    (catalog.addVersion now version).2.Mirrors (version.id :: names) := by
  refine mirrors.of_slot (List.subset_cons_self _ _)
    (show (version.stampNew now).id ∈ _ from List.mem_cons_self) rfl
    (catalog.agrees_addVersion now (mirrors.get?_instances_eq_none unlisted)) ?_
    fun id differ => catalog.get?_instances_addVersion_other now differ
  intro other second found
  obtain ⟨rfl, rfl⟩ | ⟨-, before⟩ := Collection.get?_put_cases found
  · exact .inl ⟨rfl, rfl⟩
  · exact .inr ⟨before, fun same => unlisted (same ▸ mirrors.versionNamed before)⟩

/-- A version takes the place of another that has its name, its type and its slot. -/
theorem writeAll_versionWrites (mirrors : catalog.Mirrors names) {slot : VersionKey}
    {existing stored : Version} (found : catalog.versions.get? slot = some existing)
    (named : stored.id = existing.id) (typed : stored.isStatic = existing.isStatic)
    (filed : stored.key = slot) :
    (catalog.writeAll
      (catalog.versionWrites (.forStatic stored.isStatic) slot stored)).Mirrors names := by
  refine mirrors.of_slot (List.Subset.refl _) (named ▸ mirrors.versionNamed found) filed
    (catalog.agrees_versionWrites slot named typed (mirrors.agrees found)) ?_
    fun id differ => catalog.get?_instances_versionWrites_other _ slot differ
  intro other version there
  rw [Catalog.writeAll_versionWrites] at there
  obtain ⟨rfl, rfl⟩ | ⟨elsewhere, before⟩ := Collection.get?_put_cases there
  · exact .inl ⟨rfl, rfl⟩
  · exact .inr ⟨before, fun same => elsewhere (mirrors.apart before found (same.trans named))⟩

/-- The instance of a version that is published already is marked. -/
theorem publishInstance (mirrors : catalog.Mirrors names) {slot : VersionKey} {stored : Version}
    (found : catalog.versions.get? slot = some stored)
    (published : stored.state = some .published) :
    (catalog.publishInstance stored.id).2.Mirrors names := by
  refine mirrors.of_slot (List.Subset.refl _) (mirrors.versionNamed found)
    (mirrors.filed _ _ found) (catalog.agrees_publishInstance published (mirrors.agrees found)) ?_
    fun id differ => catalog.get?_instances_publishInstance_other differ
  intro other version there
  rw [versions_publishInstance] at there
  by_cases here : other = slot
  · subst here
    exact .inl ⟨rfl, Option.some_inj.mp (there.symm.trans found)⟩
  · exact .inr ⟨there, fun same => here (mirrors.apart there found same)⟩

end Mirrors

/-! ### Marks -/

/-- The instances that are published in the one catalog are so in the other. -/
def StaysPublished (catalog later : Catalog) : Prop :=
  ∀ id record, catalog.instances.get? id = some record → record.isPublished = true →
    ∃ current, later.instances.get? id = some current ∧ current.isPublished = true

namespace StaysPublished

variable {catalog later last : Catalog}

theorem refl (catalog : Catalog) : catalog.StaysPublished catalog :=
  fun _ record found published => ⟨record, found, published⟩

theorem trans (stays : catalog.StaysPublished later) (again : later.StaysPublished last) :
    catalog.StaysPublished last := by
  intro id record found published
  obtain ⟨current, there, still⟩ := stays id record found published
  exact again id current there still

/-- What carries a state over or sets the mark does not take a mark away. -/
theorem of_writeAll {writes : List Write}
    (kept : ∀ id written record, .record id written ∈ writes →
      catalog.instances.get? id = some record → record.isPublished = true →
        written.isPublished = true) :
    catalog.StaysPublished (catalog.writeAll writes) := by
  intro id record found published
  rcases catalog.get?_instances_writeAll writes id with ⟨written, member, put⟩ | ⟨-, same⟩
  · exact ⟨written, put, kept id written record member found published⟩
  · exact ⟨record, same.trans found, published⟩

/-- A new name has no mark that could be taken away. -/
theorem addVersion {version : Version} (unused : catalog.instances.get? version.id = none)
    (now : Timestamp) : catalog.StaysPublished (catalog.addVersion now version).2 := by
  intro id record found published
  have differ : id ≠ version.id := by
    rintro rfl
    cases unused.symm.trans found
  exact ⟨record, (get?_instances_addVersion_other catalog now differ).trans found, published⟩

theorem versionWrites (path : WritePath) (slot : VersionKey) (stored : Version) :
    catalog.StaysPublished (catalog.writeAll (catalog.versionWrites path slot stored)) := by
  refine of_writeAll fun id written record member found published => ?_
  rcases List.mem_cons.mp member with version | mirrored
  · cases version
  · cases path with
    | static => cases mirrored
    | generic =>
      obtain ⟨_, there, same⟩ := eq_of_mem_mirrorWrites mirrored
      cases same
      cases there.symm.trans found
      exact published

theorem publishInstance (id : String) :
    catalog.StaysPublished (catalog.publishInstance id).2 := by
  rw [show (catalog.publishInstance id).2 = _ from
    catalog.perform_eq_writeAll .sample (.publishInstance id)]
  refine of_writeAll fun _ written _ member _ _ => ?_
  obtain ⟨_, _, same⟩ := eq_of_mem_publishWrites member
  cases same
  rfl

end StaysPublished

end Catalog

end ReleaseCatalog
