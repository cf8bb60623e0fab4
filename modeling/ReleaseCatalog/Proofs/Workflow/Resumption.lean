/-
A publication that failed is taken up again by submitting it once more. However far the attempts
before have come, they have only begun what the next one does anyway: each document that they have
changed is one that a publication changes into the same again, dates and tags apart. So the last
attempt finds all that it needs, and leaves the parents as an uninterrupted publication would have.
-/

import Mathlib
import ReleaseCatalog.Proofs.Workflow.Failures
import ReleaseCatalog.Proofs.Workflow.Publication
import ReleaseCatalog.Proofs.Workflow.Uninterrupted

namespace ReleaseCatalog

/-- The two catalogs have the same datasets, editions and instances, dates and tags apart. -/
structure Catalog.SameParents (first second : Catalog) : Prop where
  datasets (id : String) :
    (first.datasets.get? id).map Dataset.undated = (second.datasets.get? id).map Dataset.undated
  editions (key : String × String) :
    (first.editions.get? key).map Edition.undated = (second.editions.get? key).map Edition.undated
  instances (id : String) : first.instances.get? id = second.instances.get? id

theorem Catalog.SameParents.trans {first second third : Catalog}
    (same : first.SameParents second) (next : second.SameParents third) :
    first.SameParents third :=
  ⟨fun id => (same.datasets id).trans (next.datasets id),
    fun key => (same.editions key).trans (next.editions key),
    fun id => (same.instances id).trans (next.instances id)⟩

/-! ### What a publication makes of each document -/

/-- What a publication makes of the record of an instance. -/
def Version.markedRecord (release : Version) (id : String) (record : Instance) : Instance :=
  if release.isStatic = false ∧ id = release.id then
    { record with isPublished := true, state := some .published }
  else record

namespace VersionDetails

/-- What a publication makes of a dataset. -/
def promotedDataset (details : VersionDetails) (release : Version) (id : String)
    (now : Timestamp) (dataset : Dataset) : Dataset :=
  if id = details.datasetId then { dataset.promote now release with id := details.datasetId }
  else dataset

/-- What a publication makes of an edition. -/
def promotedEdition (details : VersionDetails) (release : Version) (key : String × String)
    (now : Timestamp) (edition : Edition) : Edition :=
  if key = (details.datasetId, details.edition) then
    (edition.promote now release.versionLink).1.stamp
  else edition

theorem promotedDataset_other {details : VersionDetails} {release : Version} {id : String}
    {now : Timestamp} (other : id ≠ details.datasetId) :
    details.promotedDataset release id now = fun dataset => dataset :=
  funext fun _ => if_neg other

theorem promotedEdition_other {details : VersionDetails} {release : Version}
    {key : String × String} {now : Timestamp}
    (other : key ≠ (details.datasetId, details.edition)) :
    details.promotedEdition release key now = fun edition => edition :=
  funext fun _ => if_neg other

/-- The second catalog is the first after a publication, as far as parents are concerned. -/
structure Publishes (details : VersionDetails) (release : Version) (start last : Catalog) :
    Prop where
  datasets (id : String) : ∃ now, last.datasets.get? id =
    (start.datasets.get? id).map (details.promotedDataset release id now)
  editions (key : String × String) : ∃ now, last.editions.get? key =
    (start.editions.get? key).map (details.promotedEdition release key now)
  instances (id : String) :
    last.instances.get? id = (start.instances.get? id).map (release.markedRecord id)

/-- The second catalog is the first after a part of a publication, as far as parents are
concerned. -/
structure BeginsToPublish (details : VersionDetails) (release : Version) (start middle : Catalog) :
    Prop where
  datasets (id : String) : middle.datasets.get? id = start.datasets.get? id ∨
    ∃ now, middle.datasets.get? id =
      (start.datasets.get? id).map (details.promotedDataset release id now)
  editions (key : String × String) : middle.editions.get? key = start.editions.get? key ∨
    ∃ now, middle.editions.get? key =
      (start.editions.get? key).map (details.promotedEdition release key now)
  instances (id : String) : ∃ change,
    middle.instances.get? id = (start.instances.get? id).map change ∧
      ∀ record, release.markedRecord id (change record) = release.markedRecord id record

variable {details : VersionDetails} {release : Version}

/-- What a change of documents comes to does not depend on when it is made, nor on whether it was
made before. -/
theorem map_view_eq {δ ε : Type} {view : δ → ε} {change : Timestamp → δ → δ}
    (anytime : ∀ now later document, view (change now document) = view (change later document))
    (again : ∀ now later document,
      view (change later (change now document)) = view (change later document))
    {start middle direct resumed : Option δ}
    (begun : middle = start ∨ ∃ now, middle = start.map (change now))
    (straight : ∃ now, direct = start.map (change now))
    (taken : ∃ now, resumed = middle.map (change now)) : resumed.map view = direct.map view := by
  obtain ⟨now, rfl⟩ := straight
  obtain ⟨later, rfl⟩ := taken
  rcases begun with rfl | ⟨between, rfl⟩
  · cases middle with
    | none => rfl
    | some document => exact congrArg some (anytime later now document)
  · cases start with
    | none => rfl
    | some document =>
      exact congrArg some ((again between later document).trans (anytime later now document))

theorem undated_promotedDataset (id : String) (now later : Timestamp) (dataset : Dataset) :
    (details.promotedDataset release id now dataset).undated =
      (details.promotedDataset release id later dataset).undated := by
  unfold promotedDataset
  by_cases own : id = details.datasetId
  · simp only [if_pos own]
    exact dataset.undated_promote now later release details.datasetId
  · simp only [if_neg own]

theorem undated_promotedDataset_promotedDataset (id : String) (now later : Timestamp)
    (dataset : Dataset) :
    (details.promotedDataset release id later
      (details.promotedDataset release id now dataset)).undated =
        (details.promotedDataset release id later dataset).undated := by
  unfold promotedDataset
  by_cases own : id = details.datasetId
  · simp only [if_pos own]
    exact dataset.undated_promote_promote now later release details.datasetId
  · simp only [if_neg own]

theorem undated_promotedEdition (key : String × String) (now later : Timestamp)
    (edition : Edition) :
    (details.promotedEdition release key now edition).undated =
      (details.promotedEdition release key later edition).undated := by
  unfold promotedEdition
  by_cases own : key = (details.datasetId, details.edition)
  · simp only [if_pos own]
    exact edition.undated_promote now later release.versionLink
  · simp only [if_neg own]

theorem undated_promotedEdition_promotedEdition (key : String × String) (now later : Timestamp)
    (edition : Edition) :
    (details.promotedEdition release key later
      (details.promotedEdition release key now edition)).undated =
        (details.promotedEdition release key later edition).undated := by
  unfold promotedEdition
  by_cases own : key = (details.datasetId, details.edition)
  · simp only [if_pos own]
    exact edition.undated_promote_promote now later release.versionLink
  · simp only [if_neg own]

/-- A publication that was begun before ends as one that is made in one go. -/
theorem BeginsToPublish.sameParents {start middle direct resumed : Catalog}
    (begun : details.BeginsToPublish release start middle)
    (straight : details.Publishes release start direct)
    (taken : details.Publishes release middle resumed) : resumed.SameParents direct where
  datasets id := map_view_eq (undated_promotedDataset id)
    (undated_promotedDataset_promotedDataset id) (begun.datasets id) (straight.datasets id)
    (taken.datasets id)
  editions key := map_view_eq (undated_promotedEdition key)
    (undated_promotedEdition_promotedEdition key) (begun.editions key) (straight.editions key)
    (taken.editions key)
  instances id := by
    obtain ⟨change, changed, marks⟩ := begun.instances id
    rw [taken.instances, straight.instances, changed, Option.map_map]
    exact congrArg (Option.map · _) (funext marks)

/-- A publication of which nothing was done has been begun. -/
theorem BeginsToPublish.refl (catalog : Catalog) :
    details.BeginsToPublish release catalog catalog where
  datasets _ := .inl rfl
  editions _ := .inl rfl
  instances _ := ⟨fun record => record, Option.map_id'.symm, fun _ => rfl⟩

/-- A publication goes by the release alone. -/
theorem Publishes.of_sameRelease {other : Version} (same : other.SameRelease release)
    {start last : Catalog} (publishes : details.Publishes other start last) :
    details.Publishes release start last where
  datasets id := by
    obtain ⟨now, promoted⟩ := publishes.datasets id
    refine ⟨now, promoted.trans ?_⟩
    unfold promotedDataset
    simp only [Dataset.promote_of_sameRelease same]
  editions key := by
    obtain ⟨now, promoted⟩ := publishes.editions key
    refine ⟨now, promoted.trans ?_⟩
    unfold promotedEdition
    rw [same.link]
  instances id := by
    rw [publishes.instances]
    unfold Version.markedRecord Version.isStatic
    rw [same.id, same.type]

/-! ### The writes of a publication -/

/-- The writes of which a publication consists. -/
inductive IsOfPublication (details : VersionDetails) (catalog : Catalog) (dataset : Dataset)
    (stored release : Version) : Write → Prop
  | version (now : Timestamp) :
    IsOfPublication details catalog dataset stored release
      (.version details.slot (Version.stamp now stored release))
  | edition (now : Timestamp) {edition : Edition} :
    catalog.editions.get? (details.datasetId, details.edition) = some edition →
      IsOfPublication details catalog dataset stored release
        (.edition (details.datasetId, details.edition)
          (edition.promote now release.versionLink).1.stamp)
  | record (published : Bool) {record : Instance} :
    release.isStatic = false → catalog.instances.get? release.id = some record →
      IsOfPublication details catalog dataset stored release
        (.record release.id { record with isPublished := published, state := some .published })
  | dataset (now : Timestamp) :
    IsOfPublication details catalog dataset stored release
      (.dataset details.datasetId
        { dataset.promote now release with id := details.datasetId })

section Publication

variable {update stored : Version} {dataset : Dataset} {catalog : Catalog} {change : Write}

theorem eq_of_mem_editionWrites {link : Option Link} {now : Timestamp}
    (member : change ∈ details.editionWrites catalog link now) :
    ∃ edition, catalog.editions.get? (details.datasetId, details.edition) = some edition ∧
      change =
        .edition (details.datasetId, details.edition) (edition.promote now link).1.stamp := by
  unfold editionWrites at member
  cases found : catalog.editions.get? (details.datasetId, details.edition) with
  | none => simp [found] at member
  | some edition =>
    rw [found] at member
    exact ⟨edition, rfl, List.mem_singleton.mp member⟩

/-- The cascade of a release that is published consists of nothing else. -/
theorem isOfPublication_of_mem_cascade
    (foundVersion : catalog.versions.get? details.slot = some stored)
    (foundDataset : catalog.datasets.get? details.datasetId = some dataset)
    (published : (Version.combine stored update).state = some .published) {times : CascadeTimes}
    (member : change ∈ details.cascade update catalog times) :
    details.IsOfPublication catalog dataset stored (Version.combine stored update) change := by
  simp only [cascade, foundVersion, foundDataset, parentWrites, published] at member
  rcases List.mem_append.mp member with version | parents
  · rcases List.mem_cons.mp version with rfl | mirrored
    · exact .version times.version
    · cases static : (Version.combine stored update).isStatic with
      | true => simp [static, WritePath.forStatic] at mirrored
      | false =>
        rw [static] at mirrored
        obtain ⟨record, found, rfl⟩ := Catalog.eq_of_mem_mirrorWrites mirrored
        have state : (Version.stamp times.version stored (Version.combine stored update)).state =
          some .published := published
        rw [state]
        exact .record record.isPublished static found
  · rcases List.mem_append.mp parents with others | promoted
    · rcases List.mem_append.mp others with edition | marked
      · obtain ⟨edition, found, rfl⟩ := eq_of_mem_editionWrites edition
        exact .edition times.edition found
      · cases static : (Version.combine stored update).isStatic with
        | true => simp [static] at marked
        | false =>
          rw [static] at marked
          obtain ⟨record, found, rfl⟩ := Catalog.eq_of_mem_publishWrites marked
          exact .record true static found
    · rw [List.mem_singleton.mp promoted]
      exact .dataset times.dataset

/-! ### Catalogs that a publication has begun to change -/

section Changed

variable {writes : List Write}
  (only : ∀ change ∈ writes, details.IsOfPublication catalog dataset stored release change)
include only

theorem datasets_writeAll_of_isOfPublication
    (found : catalog.datasets.get? details.datasetId = some dataset) (id : String) :
    (∃ now, (catalog.writeAll writes).datasets.get? id =
      (catalog.datasets.get? id).map (details.promotedDataset release id now)) ∨
    ((∀ document, Write.dataset id document ∉ writes) ∧
      (catalog.writeAll writes).datasets.get? id = catalog.datasets.get? id) := by
  rcases catalog.get?_datasets_writeAll writes id with ⟨document, member, stored⟩ | unchanged
  · cases only _ member with
    | dataset now =>
      refine .inl ⟨now, ?_⟩
      rw [stored, found]
      exact congrArg some (if_pos rfl).symm
  · exact .inr unchanged

theorem editions_writeAll_of_isOfPublication (key : String × String) :
    (∃ now, (catalog.writeAll writes).editions.get? key =
      (catalog.editions.get? key).map (details.promotedEdition release key now)) ∨
    ((∀ document, Write.edition key document ∉ writes) ∧
      (catalog.writeAll writes).editions.get? key = catalog.editions.get? key) := by
  rcases catalog.get?_editions_writeAll writes key with ⟨document, member, stored⟩ | unchanged
  · cases only _ member with
    | edition now found =>
      refine .inl ⟨now, ?_⟩
      rw [stored, found]
      exact congrArg some (if_pos rfl).symm
  · exact .inr unchanged

theorem instances_writeAll_of_isOfPublication (id : String) :
    (release.isStatic = false ∧ id = release.id ∧ ∃ published,
      (catalog.writeAll writes).instances.get? id = (catalog.instances.get? id).map fun record =>
        { record with isPublished := published, state := some .published }) ∨
    ((∀ document, Write.record id document ∉ writes) ∧
      (catalog.writeAll writes).instances.get? id = catalog.instances.get? id) := by
  rcases catalog.get?_instances_writeAll writes id with ⟨document, member, stored⟩ | unchanged
  · cases only _ member with
    | record published imported found =>
      refine .inl ⟨imported, rfl, published, ?_⟩
      rw [stored, found]
      rfl
  · exact .inr unchanged

/-- The slot of the version has the stored version still, or the one that took its place. -/
theorem version_writeAll_of_isOfPublication
    (found : catalog.versions.get? details.slot = some stored) :
    (catalog.writeAll writes).versions.get? details.slot = some stored ∨
      ∃ now, (catalog.writeAll writes).versions.get? details.slot =
        some (Version.stamp now stored release) := by
  rcases catalog.get?_versions_writeAll writes details.slot with ⟨_, member, put⟩ | ⟨-, same⟩
  · cases only _ member with
    | version now => exact .inr ⟨now, put⟩
  · exact .inl (same.trans found)

/-- The writes of a publication keep a catalog well filed. -/
theorem wellFiled_writeAll_of_isOfPublication
    (found : catalog.versions.get? details.slot = some stored) (filed : catalog.WellFiled) :
    (catalog.writeAll writes).WellFiled := by
  refine filed.writeAll fun change member => ?_
  cases only change member with
  | version now => exact (Version.key_stamp now stored release).trans (filed _ _ found)
  | edition | record | dataset => trivial

/-- Whichever writes of a publication were made, the publication was begun with them. -/
theorem beginsToPublish_writeAll
    (found : catalog.datasets.get? details.datasetId = some dataset) :
    details.BeginsToPublish release catalog (catalog.writeAll writes) where
  datasets id :=
    (datasets_writeAll_of_isOfPublication only found id).symm.imp And.right fun promoted => promoted
  editions key :=
    (editions_writeAll_of_isOfPublication only key).symm.imp And.right fun promoted => promoted
  instances id := by
    rcases instances_writeAll_of_isOfPublication only id with
      ⟨imported, rfl, published, changed⟩ | ⟨-, same⟩
    · refine ⟨_, changed, fun record => ?_⟩
      simp only [Version.markedRecord, imported, and_self, if_true]
    · exact ⟨fun record => record, by rw [same, Option.map_id'], fun _ => rfl⟩

end Changed

section Whole

variable (foundVersion : catalog.versions.get? details.slot = some stored)
  (foundDataset : catalog.datasets.get? details.datasetId = some dataset)
  (published : (Version.combine stored update).state = some .published) (times : CascadeTimes)
include foundVersion foundDataset published

/-- The cascade of a release that is published, with the last mark of its instance set apart. -/
theorem cascade_of_published :
    details.cascade update catalog times =
      (catalog.versionWrites (.forStatic (Version.combine stored update).isStatic) details.slot
          (Version.stamp times.version stored (Version.combine stored update)) ++
        details.editionWrites catalog (Version.combine stored update).versionLink
          times.edition) ++
      ((if (Version.combine stored update).isStatic then []
          else catalog.publishWrites (Version.combine stored update).id) ++
        details.datasetWrites dataset (Version.combine stored update) times.dataset) := by
  simp only [cascade, foundVersion, foundDataset, parentWrites, published, List.append_assoc]

theorem datasets_writeAll_cascade (id : String) :
    ∃ now, (catalog.writeAll (details.cascade update catalog times)).datasets.get? id =
      (catalog.datasets.get? id).map
        (details.promotedDataset (Version.combine stored update) id now) := by
  rcases datasets_writeAll_of_isOfPublication
      (fun _ => isOfPublication_of_mem_cascade foundVersion foundDataset published) foundDataset
      id with promoted | ⟨unwritten, same⟩
  · exact promoted
  · refine ⟨times.dataset, ?_⟩
    have other : id ≠ details.datasetId := by
      rintro rfl
      refine unwritten { dataset.promote times.dataset (Version.combine stored update) with
        id := details.datasetId } ?_
      rw [cascade_of_published foundVersion foundDataset published]
      exact List.mem_append_right _ (List.mem_append_right _ List.mem_cons_self)
    rw [same, promotedDataset_other other, Option.map_id']

theorem editions_writeAll_cascade (key : String × String) :
    ∃ now, (catalog.writeAll (details.cascade update catalog times)).editions.get? key =
      (catalog.editions.get? key).map
        (details.promotedEdition (Version.combine stored update) key now) := by
  rcases editions_writeAll_of_isOfPublication
      (fun _ => isOfPublication_of_mem_cascade foundVersion foundDataset published) key with
    promoted | ⟨unwritten, same⟩
  · exact promoted
  · refine ⟨times.edition, ?_⟩
    rw [same]
    cases found : catalog.editions.get? key with
    | none => rfl
    | some edition =>
      have other : key ≠ (details.datasetId, details.edition) := by
        rintro rfl
        refine unwritten (edition.promote times.edition
          (Version.combine stored update).versionLink).1.stamp ?_
        rw [cascade_of_published foundVersion foundDataset published]
        refine List.mem_append_left _ (List.mem_append_right _ ?_)
        simp only [editionWrites, found, List.mem_singleton]
      rw [promotedEdition_other other, Option.map_id']

/-- The mark comes after the state that was carried over, so it is what stays. -/
theorem instances_writeAll_cascade (id : String) :
    (catalog.writeAll (details.cascade update catalog times)).instances.get? id =
      (catalog.instances.get? id).map ((Version.combine stored update).markedRecord id) := by
  have parts := cascade_of_published foundVersion foundDataset published times
  have only (change : Write) (member : change ∈ details.cascade update catalog times) :=
    isOfPublication_of_mem_cascade foundVersion foundDataset published member
  generalize Version.combine stored update = release at parts only
  generalize _ ++ details.editionWrites catalog _ _ = front at parts
  rw [parts] at only ⊢
  rw [Catalog.writeAll_append]
  rcases (catalog.writeAll front).get?_instances_writeAll
      ((if release.isStatic then [] else catalog.publishWrites release.id) ++
        details.datasetWrites dataset release times.dataset) id with
    ⟨document, member, put⟩ | ⟨unwritten, same⟩
  · rw [put]
    rcases List.mem_append.mp member with marked | promoted
    · cases static : release.isStatic with
      | true => simp [static] at marked
      | false =>
        rw [static] at marked
        obtain ⟨record, found, same⟩ := Catalog.eq_of_mem_publishWrites marked
        cases same
        simp [found, Version.markedRecord, static]
    · cases List.mem_singleton.mp promoted
  · rw [same]
    cases found : catalog.instances.get? id with
    | none =>
      rcases instances_writeAll_of_isOfPublication
          (fun change member => only change (List.mem_append_left _ member)) id with
        ⟨-, -, _, changed⟩ | ⟨-, unchanged⟩
      · rw [changed, found]
        rfl
      · rw [unchanged, found]
        rfl
    | some record =>
      have other : ¬(release.isStatic = false ∧ id = release.id) := by
        rintro ⟨imported, rfl⟩
        refine unwritten { record with isPublished := true, state := some .published } ?_
        refine List.mem_append_left _ ?_
        simp [imported, Catalog.publishWrites, found]
      rcases instances_writeAll_of_isOfPublication
          (fun change member => only change (List.mem_append_left _ member)) id with
        ⟨imported, own, -⟩ | ⟨-, unchanged⟩
      · exact absurd ⟨imported, own⟩ other
      · rw [unchanged, found]
        exact congrArg some (if_neg other).symm

/-- The whole cascade is a publication. -/
theorem publishes_writeAll_cascade :
    details.Publishes (Version.combine stored update) catalog
      (catalog.writeAll (details.cascade update catalog times)) :=
  ⟨datasets_writeAll_cascade foundVersion foundDataset published times,
    editions_writeAll_cascade foundVersion foundDataset published times,
    instances_writeAll_cascade foundVersion foundDataset published times⟩

end Whole

end Publication

end VersionDetails

/-! ### Publications that can be taken up again -/

/-- A promotion keeps the type of a dataset. -/
theorem Dataset.typeFor_promote {dataset : Dataset} {text : String}
    (typed : dataset.typeFor true = some text) (now : Timestamp) (version : Version)
    (key : String) : typeFor { dataset.promote now version with id := key } true = some text := by
  have half : dataset.authorisedHalf.map (·.type) = some text := typed
  show some ((dataset.authorisedHalf.getD { id := dataset.id }).publish now version).type =
    some text
  cases found : dataset.authorisedHalf with
  | none => simp [found] at half
  | some given =>
    rw [found] at half
    exact half

namespace VersionDetails.BeginsToPublish

variable {details : VersionDetails} {release : Version} {start middle : Catalog}
  (begun : details.BeginsToPublish release start middle)
include begun

theorem exists_dataset {dataset : Dataset} {text : String}
    (found : start.datasets.get? details.datasetId = some dataset)
    (typed : dataset.typeFor true = some text) :
    ∃ later, middle.datasets.get? details.datasetId = some later ∧
      later.typeFor true = some text := by
  rcases begun.datasets details.datasetId with same | ⟨now, promoted⟩
  · exact ⟨dataset, same.trans found, typed⟩
  · rw [found] at promoted
    refine ⟨_, promoted, ?_⟩
    unfold promotedDataset
    rw [if_pos rfl]
    exact Dataset.typeFor_promote typed now release details.datasetId

theorem exists_edition {key : String × String} {edition : Edition}
    (found : start.editions.get? key = some edition) :
    ∃ later, middle.editions.get? key = some later := by
  rcases begun.editions key with same | ⟨now, promoted⟩
  · exact ⟨edition, same.trans found⟩
  · rw [found] at promoted
    exact ⟨_, promoted⟩

theorem exists_record {id : String} {record : Instance}
    (found : start.instances.get? id = some record) :
    ∃ later, middle.instances.get? id = some later := by
  obtain ⟨change, changed, -⟩ := begun.instances id
  rw [found] at changed
  exact ⟨_, changed⟩

end VersionDetails.BeginsToPublish

namespace Version

theorem SameRelease.isStatic {first second : Version} (same : SameRelease first second) :
    first.isStatic = second.isStatic := by
  unfold Version.isStatic
  rw [same.type]

/-- The built-in rules let a version that was published be published again. -/
theorem checkMove_builtIn_again {stored update : Version} (now : Timestamp)
    (published : (combine stored update).state = some .published)
    (checked : TransitionContext.checkMove .builtIn stored (combine stored update) = .ok ()) :
    TransitionContext.checkMove .builtIn (stamp now stored (combine stored update))
      (combine (stamp now stored (combine stored update)) update) = .ok () := by
  have same := sameRelease_combine_stamp now stored update
  obtain ⟨valid, target, type, -, resolved, -⟩ := TransitionContext.checkMove_eq_ok_iff.mp checked
  refine TransitionContext.checkMove_eq_ok_iff.mpr
    ⟨same.validate.trans valid, .published, type, same.state.trans published, ?_, ?_⟩
  · rw [← resolved, resolvedType, resolvedType, same.type]
  · show TransitionTable.builtIn.check (combine stored update).state .published type = .ok ()
    rw [published]
    exact check_published_builtIn type

end Version

namespace Machine

variable {machine : Machine} {details : VersionDetails} {update : Version}
  {options : AmendOptions} {catalog : Catalog} {dataset : Dataset} {stored : Version}

/-- Downloads are asked for in the same way for versions that make the same release. -/
theorem asksDownloads_of_sameRelease {later : Dataset} {current : Version}
    (same : (Version.combine current update).SameRelease (Version.combine stored update)) :
    (machine.context details update options later current).asksDownloads =
      (machine.context details update options dataset stored).asksDownloads := by
  unfold TransitionContext.asksDownloads TransitionContext.hasPublicCsv context
  rw [same.downloads, same.isStatic]

/-- Whichever writes of a publication were made, the version may be published still. -/
theorem Publishable.exists_version (builtIn : machine.transitions = .builtIn)
    (publishable : machine.Publishable details update options catalog dataset stored)
    {writes : List Write}
    (only : ∀ change ∈ writes,
      details.IsOfPublication catalog dataset stored (Version.combine stored update) change) :
    ∃ current, (catalog.writeAll writes).versions.get? details.slot = some current ∧
      TransitionContext.checkMove machine.transitions current (Version.combine current update) =
        .ok () ∧
      (Version.combine current update).SameRelease (Version.combine stored update) := by
  rcases VersionDetails.version_writeAll_of_isOfPublication only publishable.foundVersion with
    same | ⟨now, stamped⟩
  · exact ⟨stored, same, publishable.checked, .refl _⟩
  · refine ⟨_, stamped, ?_, Version.sameRelease_combine_stamp now stored update⟩
    have checked := publishable.checked
    rw [builtIn] at checked ⊢
    exact Version.checkMove_builtIn_again now publishable.published checked

/-- Whichever writes of a publication were made, it can be made again. -/
theorem Publishable.writeAll (builtIn : machine.transitions = .builtIn)
    (publishable : machine.Publishable details update options catalog dataset stored)
    {writes : List Write}
    (only : ∀ change ∈ writes,
      details.IsOfPublication catalog dataset stored (Version.combine stored update) change) :
    ∃ later current,
      machine.Publishable details update options (catalog.writeAll writes) later current ∧
        (Version.combine current update).SameRelease (Version.combine stored update) := by
  have begun := VersionDetails.beginsToPublish_writeAll only publishable.foundDataset
  obtain ⟨current, foundCurrent, checked, same⟩ := publishable.exists_version builtIn only
  obtain ⟨edition, foundEdition, target, link, aimed⟩ := publishable.promoted.edition
  obtain ⟨type, answered, generated⟩ := publishable.promoted.downloads
  obtain ⟨read, text, foundRead, typed, resolved⟩ := Catalog.getDatasetType_eq_ok_iff.mp answered
  obtain ⟨later, foundLater, typedLater⟩ := begun.exists_dataset foundRead typed
  refine ⟨later, current, ⟨foundLater, foundCurrent, checked,
    same.state.trans publishable.published, ⟨?_, fun imported => ?_, type, ?_, fun asked => ?_⟩⟩,
    same⟩
  · obtain ⟨edition, foundEdition⟩ := begun.exists_edition foundEdition
    exact ⟨edition, foundEdition, target, same.link.trans link, aimed⟩
  · obtain ⟨record, foundRecord⟩ := publishable.promoted.record (same.isStatic.symm.trans imported)
    obtain ⟨record, foundRecord⟩ := begun.exists_record foundRecord
    exact ⟨record, (congrArg _ same.id).trans foundRecord⟩
  · exact Catalog.getDatasetType_eq_ok_iff.mpr ⟨later, text, foundLater, typedLater, resolved⟩
  · exact generated ((asksDownloads_of_sameRelease same).symm.trans asked)

end Machine

/-! ### Attempts -/

/-- An attempt at a request, at whatever time, that came to its end, whatever went wrong with it. -/
def Request.Attempt (request : Request (Result α)) (site after : Site) : Prop :=
  ∃ calendar events result,
    Program.Runs disturbed request (site.withCalendar calendar) events (some result) after

namespace Machine

open Program

variable {machine : Machine} {details : VersionDetails} {update : Version}
  {options : AmendOptions} {site : Site} {start : Catalog} {release : Version}

/-- The site after attempts at a publication that found all it needed at the start. -/
structure OnTheWay (machine : Machine) (details : VersionDetails) (update : Version)
    (options : AmendOptions) (start : Catalog) (release : Version) (site : Site) : Prop where
  filed : site.catalog.WellFiled
  free : site.arena.IsFree details.resourceKey
  publishable : ∃ dataset stored,
    machine.Publishable details update options site.catalog dataset stored ∧
      (Version.combine stored update).SameRelease release
  converges (direct resumed : Catalog) : details.Publishes release start direct →
    details.Publishes release site.catalog resumed → resumed.SameParents direct

theorem OnTheWay.withCalendar (way : machine.OnTheWay details update options start release site)
    (calendar : Nat → Timestamp) :
    machine.OnTheWay details update options start release (site.withCalendar calendar) :=
  ⟨way.filed, way.free, way.publishable, way.converges⟩

/-- Where no attempt has been made yet, a publication is on its way. -/
theorem Publishable.onTheWay {dataset : Dataset} {stored : Version}
    (publishable : machine.Publishable details update options site.catalog dataset stored)
    (filed : site.catalog.WellFiled) (free : site.arena.IsFree details.resourceKey) :
    machine.OnTheWay details update options site.catalog (Version.combine stored update) site where
  filed := filed
  free := free
  publishable := ⟨dataset, stored, publishable, .refl _⟩
  converges _ _ straight taken :=
    (VersionDetails.BeginsToPublish.refl site.catalog).sameParents straight taken

/-- An attempt leaves a publication on its way. -/
theorem OnTheWay.attempt (standard : machine.handlers = {})
    (builtIn : machine.transitions = .builtIn) {after : Site}
    (way : machine.OnTheWay details update options start release site)
    (attempt : (machine.amendVersion details update options).Attempt site after) :
    machine.OnTheWay details update options start release after := by
  obtain ⟨calendar, events, result, run⟩ := attempt
  obtain ⟨arena, ⟨times, writes, made, begun, -⟩, visited⟩ := run.ends (fun _ _ => id)
    (follows_amendVersion standard details update options (way.withCalendar calendar).filed)
  obtain ⟨dataset, stored, publishable, same⟩ := way.publishable
  have catalog : after.catalog = site.catalog.writeAll writes := made.catalog
  have only (change : Write) (member : change ∈ writes) :
      details.IsOfPublication site.catalog dataset stored (Version.combine stored update) change :=
    VersionDetails.isOfPublication_of_mem_cascade publishable.foundVersion
      publishable.foundDataset publishable.published (begun.subset member)
  obtain ⟨later, current, again, sameAgain⟩ := publishable.writeAll builtIn only
  refine ⟨?_, ?_, ?_, fun direct resumed straight taken => ?_⟩
  · rw [catalog]
    exact VersionDetails.wellFiled_writeAll_of_isOfPublication only publishable.foundVersion
      way.filed
  · have arenas : after.arena = arena := made.arena
    rw [arenas]
    rcases visited rfl with rfl | rfl
    · exact way.free
    · exact way.free.visited
  · rw [catalog]
    exact ⟨later, current, again, sameAgain.trans same⟩
  · -- An attempt without any failure is compared with both ends.
    rw [catalog] at taken
    have middle := VersionDetails.publishes_writeAll_cascade publishable.foundVersion
      publishable.foundDataset publishable.published times
    have resumes := (VersionDetails.beginsToPublish_writeAll only
      publishable.foundDataset).sameParents middle (taken.of_sameRelease same.symm)
    exact resumes.trans (way.converges direct _ straight (middle.of_sameRelease same))

/-- A publication that is on its way comes to its end when nothing goes wrong. -/
theorem OnTheWay.publishes (standard : machine.handlers = {}) (all : options.ifMatch = ETag.any)
    (way : machine.OnTheWay details update options start release site) :
    (∃ version,
      ((machine.amendVersion details update options).run Site.perform site).1 = .ok version) ∧
    details.Publishes release site.catalog
      ((machine.amendVersion details update options).run Site.perform site).2.catalog := by
  obtain ⟨dataset, stored, publishable, same⟩ := way.publishable
  obtain ⟨arena, ran⟩ := run_amendVersion machine details update options way.free
  rw [ran]
  have filed : (site.later.withArena arena).catalog.WellFiled := way.filed
  have ready : machine.Publishable details update options
    (site.later.withArena arena).catalog dataset stored := publishable
  obtain ⟨version, succeeded⟩ := ready.can_locked standard all filed
  obtain ⟨times, made, -⟩ :=
    Steps.made_of_can (follows_locked standard details update options filed) succeeded
  refine ⟨⟨version, succeeded⟩, ?_⟩
  show details.Publishes release site.catalog
    ((machine.locked details update options).run Site.act (site.later.withArena arena)).2.catalog
  rw [made.catalog]
  exact (VersionDetails.publishes_writeAll_cascade publishable.foundVersion
    publishable.foundDataset publishable.published times).of_sameRelease same

/-- A publication that would have succeeded on the first site is on its way there. -/
theorem onTheWay_of_run (standard : machine.handlers = {}) (all : options.ifMatch = ETag.any)
    (filed : site.catalog.WellFiled) (free : site.arena.IsFree details.resourceKey)
    (published : details.Targets update site.catalog .published) {version : Version}
    (succeeded : ((machine.amendVersion details update options).run Site.perform site).1 =
      .ok version) :
    ∃ release, machine.OnTheWay details update options site.catalog release site := by
  obtain ⟨arena, ran⟩ := run_amendVersion machine details update options free
  rw [ran] at succeeded
  have filedThere : (site.later.withArena arena).catalog.WellFiled := filed
  obtain ⟨dataset, stored, publishable⟩ :=
    publishable_of_locked standard all filedThere succeeded published
  exact ⟨Version.combine stored update, Publishable.onTheWay publishable filed free⟩

/-- A publication that would have succeeded is resumed by submitting it again: after any number of
attempts, wherever they failed, one more succeeds, and it leaves datasets, editions and instances as
the uninterrupted publication would have, dates and tags apart. -/
theorem amend_resumes_publication (standard : machine.handlers = {})
    (builtIn : machine.transitions = .builtIn) {identifiers : VersionIdentifiers}
    (named : identifiers.resolve = .ok details) (all : options.ifMatch = ETag.any)
    (filed : site.catalog.WellFiled) (free : site.arena.IsFree details.resourceKey)
    (published : details.Targets update site.catalog .published) {version : Version}
    (succeeds : ((machine.amend identifiers update options).run Site.perform site).1 =
      .ok version)
    {middle : Site}
    (attempts : Relation.ReflTransGen (machine.amend identifiers update options).Attempt site
      middle)
    (calendar : Nat → Timestamp) :
    (∃ again, ((machine.amend identifiers update options).run Site.perform
      (middle.withCalendar calendar)).1 = .ok again) ∧
    Catalog.SameParents
      ((machine.amend identifiers update options).run Site.perform
        (middle.withCalendar calendar)).2.catalog
      ((machine.amend identifiers update options).run Site.perform site).2.catalog := by
  have same := amend_eq_amendVersion named succeeds
  rw [same] at succeeds attempts ⊢
  obtain ⟨release, start⟩ := onTheWay_of_run standard all filed free published succeeds
  have way : machine.OnTheWay details update options site.catalog release middle := by
    induction attempts with
    | refl => exact start
    | tail _ attempt inductionHypothesis =>
      exact inductionHypothesis.attempt standard builtIn attempt
  obtain ⟨again, resumed⟩ := (way.withCalendar calendar).publishes standard all
  obtain ⟨-, straight⟩ := start.publishes standard all
  exact ⟨again, way.converges _ _ straight resumed⟩

/-- The publication of the sample is resumed after an attempt in which the edition could not be
written. -/
theorem amend_resumes_publication_sample :
    let machine : Machine := {}
    let identifiers : VersionIdentifiers := ⟨"cpih01", "time-series", "1"⟩
    let details : VersionDetails := ⟨"cpih01", "time-series", 1⟩
    let update : Version := { state := some .published }
    let options : AmendOptions := { hasDownloads := true }
    let request := machine.amend identifiers update options
    let perform := Site.performExcept fun call => call.method = .upsertEdition
    let middle := (request.run perform Site.sample).2
    machine.handlers = {} ∧ machine.transitions = .builtIn ∧ identifiers.resolve = .ok details ∧
      options.ifMatch = ETag.any ∧ Site.sample.catalog.WellFiled ∧
      Site.sample.arena.IsFree details.resourceKey ∧
      details.Targets update Site.sample.catalog .published ∧
      (∃ version, (request.run Site.perform Site.sample).1 = .ok version) ∧
      request.Attempt Site.sample middle ∧
      (∃ again, (request.run Site.perform middle).1 = .ok again) ∧
      Catalog.SameParents (request.run Site.perform middle).2.catalog
        (request.run Site.perform Site.sample).2.catalog := by
  intro machine identifiers details update options request perform middle
  have named : identifiers.resolve = .ok details := VersionIdentifiers.resolve_sample
  have free : Site.sample.arena.IsFree details.resourceKey := Arena.isFree_new _
  let dataset : Dataset :=
    { id := "cpih01", next := some { id := "cpih01", type := "filterable" } }
  let stored : Version := {
    id := "import-1", datasetId := "cpih01", edition := "time-series", number := 1
    type := "filterable", state := some .associated, releaseDate := "2024-01-17"
    links := some { version := some ⟨"1", "/versions/1"⟩ } }
  have publishable :
      machine.Publishable details update options Site.sample.catalog dataset stored :=
    ⟨by cbv, by cbv, by cbv, rfl, ⟨_, by cbv, ⟨"1", "/versions/1"⟩, rfl, by decide⟩,
      fun _ => ⟨_, by cbv⟩, .filterable, by cbv, fun asks => by cases asks⟩
  have start := publishable.onTheWay Site.wellFiled_sample free
  have same : request = machine.amendVersion details update options := by
    show machine.amend identifiers update options = _
    unfold amend
    rw [named]
    rfl
  have succeeds : ∃ version, (request.run Site.perform Site.sample).1 = .ok version := by
    rw [same]
    exact (start.publishes rfl rfl).1
  have targets : details.Targets update Site.sample.catalog .published :=
    VersionDetails.targets_of_state rfl
  have attempt : request.Attempt Site.sample middle := by
    have allowed := Site.answers_performExcept fun call => call.method = .upsertEdition
    obtain ⟨events, run⟩ := exists_runs_run Request.disturbed perform
      (fun call site => allowed site call) request Site.sample
    exact ⟨Site.sample.calendar, events, _, run⟩
  obtain ⟨version, succeeded⟩ := succeeds
  exact ⟨rfl, rfl, named, rfl, Site.wellFiled_sample, free, targets, ⟨version, succeeded⟩, attempt,
    amend_resumes_publication rfl rfl named rfl Site.wellFiled_sample free targets succeeded
      (.single attempt) middle.calendar⟩

end Machine

end ReleaseCatalog
