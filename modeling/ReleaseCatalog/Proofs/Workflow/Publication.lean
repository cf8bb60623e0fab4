/-
When a publication succeeds. On a site that serves nothing is left to chance: whether the steps
under the lock publish a version depends on the catalog alone, and on whether there is a generator
for the downloads. The conditions are collected here, so that they can be compared before and after
attempts that failed.
-/

import ReleaseCatalog.Proofs.Workflow.Cascade
import ReleaseCatalog.Proofs.Workflow.Republishing

namespace ReleaseCatalog

variable {α β τ : Type}

namespace Steps

open Program

/-- The steps succeed on a site that serves. -/
def Can (steps : Steps (Result α)) (site : Site) : Prop :=
  ∃ value, (steps.run Site.act site).1 = .ok value

theorem can_andThen_iff {first : Steps (Result α)} {next : α → Steps (Result β)} {site : Site} :
    (first.andThen next).Can site ↔ ∃ value, (first.run Site.act site).1 = .ok value ∧
      (next value).Can (first.run Site.act site).2 := by
  unfold Can andThen
  rw [run_bind]
  cases (first.run Site.act site).1 with
  | error error => simp [run]
  | ok value => simp

/-- Steps in sequence succeed if the first can and the others can afterwards, on a condition that
does not depend on the first. -/
theorem can_andThen_iff_and {first : Steps (Result α)} {next : α → Steps (Result β)}
    {site : Site} {condition : Prop}
    (rest : ∀ value, (first.run Site.act site).1 = .ok value →
      ((next value).Can (first.run Site.act site).2 ↔ condition)) :
    (first.andThen next).Can site ↔ first.Can site ∧ condition := by
  rw [can_andThen_iff]
  constructor
  · rintro ⟨value, succeeded, more⟩
    exact ⟨⟨value, succeeded⟩, (rest value succeeded).mp more⟩
  · rintro ⟨⟨value, succeeded⟩, held⟩
    exact ⟨value, succeeded, (rest value succeeded).mpr held⟩

theorem can_require_iff {result : Result α} {next : α → Steps (Result β)} {site : Site} :
    (require result next).Can site ↔ ∃ value, result = .ok value ∧ (next value).Can site := by
  unfold require
  rw [can_andThen_iff]
  rfl

theorem can_done_ok (value : α) (site : Site) : Can (.done (.ok value)) site :=
  ⟨value, rfl⟩

theorem can_now_iff {next : Timestamp → Steps (Result α)} {site : Site} :
    Can (now.bind next) site ↔ (next site.now).Can site.later :=
  Iff.rfl

/-- Steps that begin with a call that only reads go on with its answer, a little later. -/
theorem run_read_andThen {call : StoreCall} (reads : ∀ now catalog, call.writes now catalog = [])
    {next : call.Value → Steps (Result α)} {site : Site} :
    ((store call).andThen next).run Site.act site =
      (andThen (.done (site.catalog.perform site.now call).1) next).run Site.act site.later := by
  have after : (site.store call).2 = site.later := by
    rw [Site.store_snd, reads, Site.make_nil]
  have ran : (store call).run Site.act site =
      ((site.catalog.perform site.now call).1, site.later) := Prod.ext rfl after
  unfold andThen
  rw [run_bind, ran]
  rfl

theorem run_read_andThen_eq_ok_iff {call : StoreCall}
    (reads : ∀ now catalog, call.writes now catalog = [])
    {next : call.Value → Steps (Result α)} {site : Site} {value : α} :
    (((store call).andThen next).run Site.act site).1 = .ok value ↔
      ∃ found, (site.catalog.perform site.now call).1 = .ok found ∧
        ((next found).run Site.act site.later).1 = .ok value := by
  have either (answer : Result call.Value) :
      ((andThen (.done answer) next).run Site.act site.later).1 = .ok value ↔
        ∃ found, answer = .ok found ∧ ((next found).run Site.act site.later).1 = .ok value := by
    cases answer with
    | error error => simp [andThen, Program.bind, run]
    | ok found => simp [andThen, Program.bind]
  rw [run_read_andThen reads]
  exact either _

/-- Steps that begin with a call that only reads fail with its error, or later. -/
theorem run_read_andThen_eq_error_iff {call : StoreCall}
    (reads : ∀ now catalog, call.writes now catalog = [])
    {next : call.Value → Steps (Result α)} {site : Site} {error : CatalogError} :
    (((store call).andThen next).run Site.act site).1 = .error error ↔
      (site.catalog.perform site.now call).1 = .error error ∨
        ∃ found, (site.catalog.perform site.now call).1 = .ok found ∧
          ((next found).run Site.act site.later).1 = .error error := by
  have either (answer : Result call.Value) :
      ((andThen (.done answer) next).run Site.act site.later).1 = .error error ↔
        answer = .error error ∨ ∃ found, answer = .ok found ∧
          ((next found).run Site.act site.later).1 = .error error := by
    cases answer with
    | error error => simp [andThen, Program.bind, run]
    | ok found => simp [andThen, Program.bind]
  rw [run_read_andThen reads]
  exact either _

/-- What is planned has been made when the steps have succeeded. -/
theorem made_of_can {plan : τ → List Write} {holds : τ → α → Prop} {steps : Steps (Result α)}
    {site : Site} (ensures : Ensures disturbed (site.Follows plan holds) steps site) {value : α}
    (succeeded : (steps.run Site.act site).1 = .ok value) :
    ∃ readings, site.Made (plan readings) (steps.run Site.act site).2 ∧ holds readings value := by
  obtain ⟨events, run⟩ := exists_runs_run disturbed Site.act
    (fun action _ => .served action) steps site
  obtain ⟨readings, writes, made, -, whole⟩ := run.ends (fun _ _ => id) ensures
  obtain ⟨rfl, held⟩ := whole value (congrArg some succeeded)
  exact ⟨readings, made, held⟩

end Steps

namespace TransitionContext

variable {context : TransitionContext} {site : Site}

/-- With the selector for every document the candidate is written at the first attempt. -/
theorem can_persist (all : context.ifMatch = ETag.any) (tells : context.Tells site.catalog)
    (path : WritePath) : (context.persist path).Can site := by
  have found : site.catalog.versions.get? context.current.key = some context.current :=
    tells.filed ▸ tells.version
  have selector : context.writeSelector context.current = ETag.any := by
    simp [writeSelector, all]
  have wrote : (context.write path context.current context.candidate).Can site := by
    refine Steps.can_andThen_iff.mpr
      ⟨(Version.stamp site.now context.current context.candidate).eTag, ?_, Steps.can_done_ok _ _⟩
    show (site.catalog.updateVersion _ _ _ _ _).1 = _
    rw [Catalog.updateVersion_of_found found, selector, if_pos (ETag.admits_any _)]
    rfl
  obtain ⟨persisted, wrote⟩ := wrote
  refine ⟨persisted, ?_⟩
  unfold persist
  rw [Program.run_bind, wrote]
  rfl

theorem can_promoteEdition_iff {persisted : Version} :
    (context.promoteEdition persisted).Can site ↔
      ∃ edition, site.catalog.editions.get?
          (context.details.datasetId, context.details.edition) = some edition ∧
        ∃ target, persisted.versionLink = some target ∧ target.href.isEmpty = false := by
  unfold promoteEdition
  rw [Steps.can_andThen_iff]
  refine exists_congr fun edition => and_congr ?_ ?_
  · refine Catalog.getEdition_eq_ok_iff.trans (and_iff_left ?_)
    exact ETag.admits_any _
  · generalize (Program.run Site.act _ site).2 = middle
    refine Steps.can_now_iff.trans
      (Iff.trans ?_ (edition.promote_eq_ok_iff middle.now))
    rcases edition.promote middle.now persisted.versionLink with ⟨document, error | _⟩
    · simp [Steps.Can, Program.run]
    · exact iff_of_true ⟨(), rfl⟩ rfl

theorem can_publishInstance_iff {isStatic : Bool} {persisted : Version} :
    (publishInstance isStatic persisted).Can site ↔
      (isStatic = false → ∃ record, site.catalog.instances.get? persisted.id = some record) := by
  cases isStatic with
  | true => simp [publishInstance, Steps.can_done_ok]
  | false =>
    show (∃ value, (site.catalog.publishInstance persisted.id).1 = .ok value) ↔ _
    unfold Catalog.publishInstance
    cases found : site.catalog.instances.get? persisted.id <;> simp

theorem can_promoteDataset (persisted : Version) :
    (context.promoteDataset persisted).Can site :=
  ⟨(), rfl⟩

theorem can_generateDownloads_iff {type : DatasetType} :
    (context.generateDownloads type).Can site ↔
      ∃ generator, context.generators.get type = .ok generator := by
  unfold generateDownloads
  rw [Steps.can_require_iff]
  exact exists_congr fun generator => and_iff_left ⟨(), rfl⟩

/-- Whether downloads are asked for when the candidate is published. -/
def asksDownloads (context : TransitionContext) : Bool :=
  !hasPublicCsv context.candidate && !context.hasDownloads && !context.candidate.isStatic

/-- The downloads can be generated, for the type that the dataset has. -/
def CanDownload (context : TransitionContext) (catalog : Catalog) : Prop :=
  ∃ type, catalog.getDatasetType context.details.datasetId true = .ok type ∧
    (context.asksDownloads = true → ∃ generator, context.generators.get type = .ok generator)

/-- What the promotion of the parents needs to find. -/
structure CanPromote (context : TransitionContext) (catalog : Catalog) : Prop where
  edition : ∃ edition,
    catalog.editions.get? (context.details.datasetId, context.details.edition) = some edition ∧
      ∃ target, context.candidate.versionLink = some target ∧ target.href.isEmpty = false
  record : context.candidate.isStatic = false →
    ∃ record, catalog.instances.get? context.candidate.id = some record
  downloads : context.CanDownload catalog

/-- Whether the parents can be promoted depends on which of them there are. -/
theorem CanPromote.of_same {catalog other : Catalog} (can : context.CanPromote catalog)
    (datasets : other.datasets = catalog.datasets) (editions : other.editions = catalog.editions)
    (instances : ∀ id record, catalog.instances.get? id = some record →
      ∃ record, other.instances.get? id = some record) : context.CanPromote other where
  edition := editions ▸ can.edition
  record imported := by
    obtain ⟨record, found⟩ := can.record imported
    exact instances _ record found
  downloads := by
    obtain ⟨type, answered, generated⟩ := can.downloads
    refine ⟨type, ?_, generated⟩
    rw [← answered]
    unfold Catalog.getDatasetType Catalog.getDataset
    rw [datasets]

/-- The parents can be promoted before the version is written if they can be so afterwards, and the
other way round. -/
theorem canPromote_writeAll_candidateWrites {catalog : Catalog} {path : WritePath}
    {now : Timestamp} :
    context.CanPromote (catalog.writeAll (context.candidateWrites catalog path now)) ↔
      context.CanPromote catalog := by
  obtain ⟨datasets, editions⟩ := catalog.parents_writeAll_versionWrites path context.details.slot
    (Version.stamp now context.current context.candidate)
  have records := catalog.exists_instance_writeAll_versionWrites path context.details.slot
    (Version.stamp now context.current context.candidate)
  exact ⟨fun can => can.of_same datasets.symm editions.symm fun id record found =>
      (records id).mp ⟨record, found⟩,
    fun can => can.of_same datasets editions fun id record found =>
      (records id).mpr ⟨record, found⟩⟩

theorem can_generateDownloads_if_iff (asked : Bool) {type : DatasetType} {persisted : Version} :
    Steps.Can (if asked then
        (context.generateDownloads type).andThen fun () => .done (.ok persisted)
      else .done (.ok persisted)) site ↔
      (asked = true → ∃ generator, context.generators.get type = .ok generator) := by
  cases asked with
  | false => simp [Steps.can_done_ok]
  | true =>
    rw [if_pos rfl, forall_prop_of_true rfl, ← @can_generateDownloads_iff context site]
    exact (Steps.can_andThen_iff_and fun _ _ =>
      iff_true_intro (Steps.can_done_ok persisted _)).trans (and_iff_left trivial)

end TransitionContext

/-- The parents of a version that was written are promoted exactly when they are all there, the
version has a link, and its downloads can be generated. -/
theorem Handler.can_afterwards_published_iff {context : TransitionContext} {site : Site}
    {type : DatasetType} {persisted : Version}
    (static : type.isStatic = context.candidate.isStatic)
    (candidate : context.IsCandidate persisted) :
    (published.afterwards context type persisted).Can site ↔ context.CanPromote site.catalog := by
  have link : persisted.versionLink = context.candidate.versionLink := by
    obtain ⟨tag, rfl⟩ := candidate
    rfl
  have id : persisted.id = context.candidate.id := by
    obtain ⟨tag, rfl⟩ := candidate
    rfl
  have asks : (!TransitionContext.hasPublicCsv persisted && !context.hasDownloads &&
      !type.isStatic) = context.asksDownloads := by
    obtain ⟨tag, rfl⟩ := candidate
    rw [static]
    rfl
  have conditions : context.CanPromote site.catalog ↔
      (context.promoteEdition persisted).Can site ∧
        (type.isStatic = false →
          ∃ record, site.catalog.instances.get? persisted.id = some record) ∧
        context.CanDownload site.catalog := by
    rw [TransitionContext.can_promoteEdition_iff, link, id, static]
    exact ⟨fun can => ⟨can.edition, can.record, can.downloads⟩,
      fun ⟨edition, record, downloads⟩ => ⟨edition, record, downloads⟩⟩
  rw [conditions]
  unfold afterwards
  refine Steps.can_andThen_iff_and fun _ promoted => ?_
  obtain ⟨now, made, -⟩ :=
    Steps.made_of_can (TransitionContext.follows_promoteEdition persisted) promoted
  generalize (Program.run Site.act _ site).2 = second at made ⊢
  obtain ⟨datasets, instances⟩ := Catalog.others_writeAll_editionWrites site.catalog site.catalog
    context.details persisted.versionLink now
  rw [← made.catalog] at datasets instances
  refine (Steps.can_andThen_iff_and fun _ marked => ?_).trans (and_congr_left fun _ => ?_)
  · obtain ⟨_, more, -⟩ := Steps.made_of_can
      (TransitionContext.follows_publishInstance type.isStatic persisted) marked
    generalize (Program.run Site.act _ second).2 = third at more ⊢
    have same : third.catalog.datasets = site.catalog.datasets := by
      rw [more.catalog, ← datasets]
      cases type.isStatic with
      | true => rfl
      | false => exact (Catalog.parents_writeAll_publishWrites _ _ _).1
    rw [Steps.can_andThen_iff]
    refine exists_congr fun datasetType => and_congr ?_ ?_
    · show third.catalog.getDatasetType context.details.datasetId true = _ ↔ _
      unfold Catalog.getDatasetType Catalog.getDataset
      rw [same]
      exact Iff.rfl
    · rw [asks]
      refine (Steps.can_andThen_iff_and fun _ _ =>
        TransitionContext.can_generateDownloads_if_iff context.asksDownloads).trans
          (and_iff_right (TransitionContext.can_promoteDataset persisted))
  · rw [TransitionContext.can_publishInstance_iff, instances]

/-- The update moves the stored version into the state, its own one or the stored one if it gives
none. -/
def VersionDetails.Targets (details : VersionDetails) (update : Version) (catalog : Catalog)
    (state : State) : Prop :=
  ∀ stored, catalog.versions.get? details.slot = some stored →
    (Version.combine stored update).state = some state

/-- An update that gives a state moves the version into it. -/
theorem VersionDetails.targets_of_state {details : VersionDetails} {update : Version}
    {catalog : Catalog} {state : State} (given : update.state = some state) :
    details.Targets update catalog state := by
  intro stored _
  show (update.state <|> stored.state) = some state
  rw [given]
  rfl

namespace Machine

variable {machine : Machine} {details : VersionDetails} {update : Version}
  {options : AmendOptions} {site : Site}

/-- What an uninterrupted publication of a stored version needs to find. -/
structure Publishable (machine : Machine) (details : VersionDetails) (update : Version)
    (options : AmendOptions) (catalog : Catalog) (dataset : Dataset) (stored : Version) :
    Prop where
  foundDataset : catalog.datasets.get? details.datasetId = some dataset
  foundVersion : catalog.versions.get? details.slot = some stored
  checked : TransitionContext.checkMove machine.transitions stored
    (Version.combine stored update) = .ok ()
  published : (Version.combine stored update).state = some .published
  promoted : (machine.context details update options dataset stored).CanPromote catalog

/-- A move to the published state succeeds exactly when it is allowed and the parents can be
promoted. -/
theorem can_move_iff (standard : machine.handlers = {}) (all : options.ifMatch = ETag.any)
    {dataset : Dataset} {stored : Version}
    (tells : (machine.context details update options dataset stored).Tells site.catalog)
    (published : (Version.combine stored update).state = some .published) :
    (machine.move details update options dataset stored).Can site ↔
      TransitionContext.checkMove machine.transitions stored (Version.combine stored update) =
          .ok () ∧
        (machine.context details update options dataset stored).CanPromote site.catalog := by
  let context := machine.context details update options dataset stored
  have afterwards (checked : TransitionContext.checkMove machine.transitions stored
      (Version.combine stored update) = .ok ()) :
      (Handler.published.steps context).Can site ↔ context.CanPromote site.catalog := by
    obtain ⟨valid, target, type, -, resolved, -⟩ :=
      TransitionContext.checkMove_eq_ok_iff.mp checked
    have static : type.isStatic = context.candidate.isStatic :=
      TransitionContext.isStatic_of_type resolved
    have writes : ((context.persist (.forStatic type.isStatic)).andThen
        (Handler.published.afterwards context type)).Can site ↔
          context.CanPromote site.catalog := by
      refine (Steps.can_andThen_iff_and fun persisted wrote => ?_).trans
        (and_iff_right (TransitionContext.can_persist all tells _))
      obtain ⟨now, made, candidate⟩ :=
        Steps.made_of_can (TransitionContext.follows_persist tells _) wrote
      rw [Handler.can_afterwards_published_iff static candidate, made.catalog,
        TransitionContext.canPromote_writeAll_candidateWrites]
    rw [Handler.steps_eq context _ valid, Steps.can_require_iff, ← writes]
    refine ⟨fun ⟨other, same, can⟩ => ?_, fun can => ⟨type, resolved, can⟩⟩
    cases resolved.symm.trans same
    exact can
  refine Steps.can_require_iff.trans ?_
  simp only [published, standard]
  exact ⟨fun ⟨_, checked, can⟩ => ⟨checked, (afterwards checked).mp can⟩,
    fun ⟨checked, rest⟩ => ⟨(), checked, (afterwards checked).mpr rest⟩⟩

/-- The steps under the lock have read the dataset, the edition and the version when they come to
the move. -/
theorem locked_eq_ok_iff {version : Version} :
    ((machine.locked details update options).run Site.act site).1 = .ok version ↔
      ∃ dataset stored, site.catalog.datasets.get? details.datasetId = some dataset ∧
        (∃ edition,
          site.catalog.editions.get? (details.datasetId, details.edition) = some edition) ∧
        site.catalog.versions.get? details.slot = some stored ∧
        ETag.admits options.ifMatch stored.eTag = true ∧
        ((machine.move details update options dataset stored).run Site.act
          site.later.later.later).1 = .ok version := by
  constructor
  · intro succeeded
    obtain ⟨dataset, readDataset, succeeded⟩ :=
      (Steps.run_read_andThen_eq_ok_iff fun _ _ => rfl).mp succeeded
    obtain ⟨_, readEdition, succeeded⟩ :=
      (Steps.run_read_andThen_eq_ok_iff fun _ _ => rfl).mp succeeded
    obtain ⟨stored, readVersion, moved⟩ :=
      (Steps.run_read_andThen_eq_ok_iff fun _ _ => rfl).mp succeeded
    obtain ⟨found, admitted⟩ := Catalog.getVersion_eq_ok_iff.mp readVersion
    exact ⟨dataset, stored, Catalog.getDataset_eq_ok_iff.mp readDataset,
      Catalog.checkEdition_eq_ok_iff.mp readEdition, found, admitted, moved⟩
  · rintro ⟨dataset, stored, foundDataset, foundEdition, foundVersion, admitted, moved⟩
    refine (Steps.run_read_andThen_eq_ok_iff fun _ _ => rfl).mpr
      ⟨dataset, Catalog.getDataset_eq_ok_iff.mpr foundDataset, ?_⟩
    refine (Steps.run_read_andThen_eq_ok_iff fun _ _ => rfl).mpr
      ⟨(), Catalog.checkEdition_eq_ok_iff.mpr foundEdition, ?_⟩
    exact (Steps.run_read_andThen_eq_ok_iff fun _ _ => rfl).mpr
      ⟨stored, Catalog.getVersion_eq_ok_iff.mpr ⟨foundVersion, admitted⟩, moved⟩

/-- A publication that succeeded has found what it needs. -/
theorem publishable_of_locked (standard : machine.handlers = {})
    (all : options.ifMatch = ETag.any) (filed : site.catalog.WellFiled) {version : Version}
    (succeeded : ((machine.locked details update options).run Site.act site).1 = .ok version)
    (published : details.Targets update site.catalog .published) :
    ∃ dataset stored, machine.Publishable details update options site.catalog dataset stored := by
  obtain ⟨dataset, stored, foundDataset, -, foundVersion, -, moved⟩ :=
    locked_eq_ok_iff.mp succeeded
  have tells : (machine.context details update options dataset stored).Tells
      site.later.later.later.catalog := ⟨foundVersion, filed _ _ foundVersion, foundDataset, rfl⟩
  have target := published stored foundVersion
  have can := (can_move_iff standard all tells target).mp ⟨_, moved⟩
  exact ⟨dataset, stored, foundDataset, foundVersion, can.1, target, can.2⟩

/-- A publication that finds what it needs succeeds. -/
theorem Publishable.can_locked (standard : machine.handlers = {})
    (all : options.ifMatch = ETag.any) (filed : site.catalog.WellFiled) {dataset : Dataset}
    {stored : Version}
    (publishable : machine.Publishable details update options site.catalog dataset stored) :
    (machine.locked details update options).Can site := by
  have tells : (machine.context details update options dataset stored).Tells
      site.later.later.later.catalog :=
    ⟨publishable.foundVersion, filed _ _ publishable.foundVersion, publishable.foundDataset, rfl⟩
  obtain ⟨version, moved⟩ := (can_move_iff standard all tells publishable.published).mpr
    ⟨publishable.checked, publishable.promoted⟩
  obtain ⟨edition, foundEdition, -⟩ := publishable.promoted.edition
  refine ⟨version, locked_eq_ok_iff.mpr ⟨dataset, stored, publishable.foundDataset,
    ⟨edition, foundEdition⟩, publishable.foundVersion, ?_, moved⟩⟩
  rw [all]
  exact ETag.admits_any _

end Machine

end ReleaseCatalog
