/-
The cascade of a version. Moving a version into a state brings with it a fixed sequence of writes:
first the version itself and the state of its instance, and then, when it was published or put into
a collection, its parents. Each write is known from the catalog before the move, up to the time with
which its document is dated. This file shows that the steps under a lock follow the cascade, by
whichever handler the move is carried out and whatever goes wrong on the way.
-/

import ReleaseCatalog.Proofs.Site.Following
import ReleaseCatalog.Proofs.Store.Reads
import ReleaseCatalog.Proofs.Workflow.Republishing

namespace ReleaseCatalog

/-- The slot of the version that is meant. -/
def VersionDetails.slot (details : VersionDetails) : VersionKey :=
  ⟨details.datasetId, details.edition, details.number⟩

/-- Whether a version says that its dataset is static. -/
def Version.isStatic (version : Version) : Bool :=
  (DatasetType.resolve? version.type).any DatasetType.isStatic

/-- The times with which the documents of a cascade are dated. -/
structure CascadeTimes where
  version : Timestamp
  edition : Timestamp
  dataset : Timestamp
  deriving Inhabited

namespace VersionDetails

/-- The write that promotes the edition of a version. -/
def editionWrites (details : VersionDetails) (catalog : Catalog) (link : Option Link)
    (now : Timestamp) : List Write :=
  match catalog.editions.get? (details.datasetId, details.edition) with
  | none => []
  | some edition =>
    [.edition (details.datasetId, details.edition) (edition.promote now link).1.stamp]

/-- The write that promotes the dataset of a version. -/
def datasetWrites (details : VersionDetails) (dataset : Dataset) (version : Version)
    (now : Timestamp) : List Write :=
  [.dataset details.datasetId { dataset.promote now version with id := details.datasetId }]

/-- The write that records on the dataset of a version that a collection works on it. -/
def associationWrites (details : VersionDetails) (dataset : Dataset) (version : Version)
    (now : Timestamp) : List Write :=
  [.dataset details.datasetId (dataset.associateNext details.datasetId now .associated version)]

/-- The writes to the parents of a version that has moved into its state. -/
def parentWrites (details : VersionDetails) (catalog : Catalog) (dataset : Dataset)
    (version : Version) (times : CascadeTimes) : List Write :=
  match version.state with
  | some .published =>
    details.editionWrites catalog version.versionLink times.edition ++
      (if version.isStatic then [] else catalog.publishWrites version.id) ++
      details.datasetWrites dataset version times.dataset
  | some .associated =>
    if version.isStatic then [] else details.associationWrites dataset version times.dataset
  | _ => []

/-- All writes that an update of a version makes when nothing goes wrong. -/
def cascade (details : VersionDetails) (update : Version) (catalog : Catalog)
    (times : CascadeTimes) : List Write :=
  match catalog.versions.get? details.slot, catalog.datasets.get? details.datasetId with
  | some stored, some dataset =>
    let candidate := Version.combine stored update
    catalog.versionWrites (.forStatic candidate.isStatic) details.slot
        (Version.stamp times.version stored candidate) ++
      details.parentWrites catalog dataset candidate times
  | _, _ => []

/-- What a release needs to find so that its parents can be promoted: its edition and a link to
point it at, and the record of its instance if it is an imported one. -/
structure Releasable (details : VersionDetails) (catalog : Catalog) (release : Version) : Prop where
  edition : ∃ edition,
    catalog.editions.get? (details.datasetId, details.edition) = some edition ∧
      ∃ target, release.versionLink = some target ∧ target.href.isEmpty = false
  record : release.isStatic = false → ∃ record, catalog.instances.get? release.id = some record

end VersionDetails

/-! ### What the writes leave alone -/

namespace Catalog

/-- The writes for a version touch neither datasets nor editions. -/
theorem parents_writeAll_versionWrites (catalog : Catalog) (path : WritePath) (slot : VersionKey)
    (stored : Version) :
    (catalog.writeAll (catalog.versionWrites path slot stored)).datasets = catalog.datasets ∧
      (catalog.writeAll (catalog.versionWrites path slot stored)).editions = catalog.editions := by
  rw [writeAll_versionWrites]
  exact ⟨rfl, rfl⟩

/-- The writes for a version add no instance and take none away. -/
theorem exists_instance_writeAll_versionWrites (catalog : Catalog) (path : WritePath)
    (slot : VersionKey) (stored : Version) (id : String) :
    (∃ record, (catalog.writeAll (catalog.versionWrites path slot stored)).instances.get? id =
      some record) ↔ ∃ record, catalog.instances.get? id = some record := by
  rw [writeAll_versionWrites]
  by_cases mirrored : path = .generic ∧ stored.id ≠ ""
  · simp only [if_pos mirrored]
    by_cases same : id = stored.id
    · rw [same, Collection.get?_modify_self]
      cases catalog.instances.get? stored.id <;> simp
    · rw [Collection.get?_modify_other _ same]
  · simp only [if_neg mirrored]

/-- An instance is marked published in the same way before and after its state was carried over. -/
theorem publishWrites_writeAll_versionWrites (catalog : Catalog) (path : WritePath)
    (slot : VersionKey) (stored : Version) (id : String) :
    (catalog.writeAll (catalog.versionWrites path slot stored)).publishWrites id =
      catalog.publishWrites id := by
  rw [writeAll_versionWrites]
  unfold publishWrites
  by_cases mirrored : path = .generic ∧ stored.id ≠ ""
  · simp only [if_pos mirrored]
    by_cases same : id = stored.id
    · subst same
      rw [Collection.get?_modify_self]
      cases catalog.instances.get? stored.id <;> rfl
    · rw [Collection.get?_modify_other _ same]
  · simp only [if_neg mirrored]

/-- The promotion of an edition touches neither datasets nor instances. -/
theorem others_writeAll_editionWrites (catalog other : Catalog) (details : VersionDetails)
    (link : Option Link) (now : Timestamp) :
    (catalog.writeAll (details.editionWrites other link now)).datasets = catalog.datasets ∧
      (catalog.writeAll (details.editionWrites other link now)).instances = catalog.instances := by
  unfold VersionDetails.editionWrites
  cases other.editions.get? (details.datasetId, details.edition) <;> exact ⟨rfl, rfl⟩

/-- Marking an instance published touches neither datasets nor editions. -/
theorem parents_writeAll_publishWrites (catalog other : Catalog) (id : String) :
    (catalog.writeAll (other.publishWrites id)).datasets = catalog.datasets ∧
      (catalog.writeAll (other.publishWrites id)).editions = catalog.editions := by
  unfold publishWrites
  cases other.instances.get? id <;> exact ⟨rfl, rfl⟩

end Catalog

/-! ### The write of the version -/

/-- What a context says of the stored documents is true of the catalog, and its candidate is the
merge of the update into the stored version. -/
structure TransitionContext.Tells (context : TransitionContext) (catalog : Catalog) : Prop where
  version : catalog.versions.get? context.details.slot = some context.current
  filed : context.current.key = context.details.slot
  dataset : catalog.datasets.get? context.details.datasetId = some context.dataset
  candidate : context.candidate = Version.combine context.current context.update

namespace TransitionContext

open Program

variable {context : TransitionContext} {site : Site}

/-- The writes of a candidate that takes the place of the current version. -/
def candidateWrites (context : TransitionContext) (catalog : Catalog) (path : WritePath)
    (now : Timestamp) : List Write :=
  catalog.versionWrites path context.details.slot
    (Version.stamp now context.current context.candidate)

/-- The version is the candidate, but for its tag. -/
def IsCandidate (context : TransitionContext) (persisted : Version) : Prop :=
  ∃ tag, persisted = { context.candidate with eTag := tag }

/-- The move has written the candidate; when it was published all that it needs was there. -/
structure HasMoved (context : TransitionContext) (catalog : Catalog) (persisted : Version) :
    Prop where
  candidate : context.IsCandidate persisted
  releasable : context.candidate.state = some .published →
    context.details.Releasable catalog context.candidate

/-- An attempt to write the candidate makes its writes, or nothing when it fails. -/
theorem ensures_write (tells : context.Tells site.catalog) (path : WritePath) :
    Ensures Steps.disturbed
      (fun outcome last =>
        site.Follows (context.candidateWrites site.catalog path) (fun _ => context.IsCandidate)
          outcome last ∧ ∀ error, outcome = some (.error error) → site.Made [] last)
      (context.write path context.current context.candidate) site := by
  have found : site.catalog.versions.get? context.current.key = some context.current :=
    tells.filed ▸ tells.version
  have written : (StoreCall.updateVersion path context.current context.candidate
      (context.writeSelector context.current)).writes site.now site.catalog =
        if ETag.admits (context.writeSelector context.current) context.current.eTag then
          context.candidateWrites site.catalog path site.now
        else [] := by
    rw [Catalog.writes_updateVersion_of_found found, tells.filed]
    rfl
  refine Steps.ensures_store_andThen (fun writes begun => ⟨Site.follows_begun site.now ?_, nofun⟩)
    (fun error calendar => ⟨.of_withCalendar (Site.follows_error _ error), ?_⟩) ?_
  · refine begun.trans ?_
    rw [written]
    split
    · exact List.prefix_rfl
    · exact List.nil_prefix
  · exact fun _ _ => site.made_nil_withCalendar calendar
  · intro tag calendar answered
    change (Catalog.updateVersion _ _ _ _ _ _).1 = _ at answered
    rw [Catalog.updateVersion_of_found found] at answered
    by_cases admitted : ETag.admits (context.writeSelector context.current) context.current.eTag
    · rw [if_pos admitted] at written
      rw [written]
      refine ⟨⟨site.now, _, site.made_withCalendar _ calendar, List.prefix_rfl, ?_⟩, nofun⟩
      intro version same
      cases same
      exact ⟨rfl, tag, rfl⟩
    · rw [if_neg admitted] at answered
      cases answered

/-- Reading the version again finds what was read before. -/
theorem follows_refresh (tells : context.Tells site.catalog) :
    Ensures Steps.disturbed (site.Follows (fun _ : Unit => [])
      fun _ pair => pair = (context.current, context.candidate)) context.refresh site := by
  refine Steps.follows_read_andThen (fun _ _ => rfl) fun current calendar answered => ?_
  obtain ⟨now, answered⟩ := answered
  have same : current = context.current :=
    Option.some_inj.mp
      ((Catalog.getVersion_eq_ok_iff.mp answered).1.symm.trans tells.version)
  subst same
  refine Steps.follows_require fun checked _ => Steps.follows_done_ok () rfl ?_
  rw [tells.candidate]

/-- The candidate is written once at most, also when the first attempt fails, and not at all when no
attempt succeeds. -/
theorem ensures_persist (tells : context.Tells site.catalog) (path : WritePath) :
    Ensures Steps.disturbed
      (fun outcome last =>
        site.Follows (context.candidateWrites site.catalog path) (fun _ => context.IsCandidate)
          outcome last ∧ ∀ error, outcome = some (.error error) → site.Made [] last)
      (context.persist path) site := by
  refine Ensures.bind ((ensures_write tells path).mono ?_)
  rintro outcome last ⟨follows, failed⟩
  match outcome with
  | none => exact ⟨follows, nofun⟩
  | some (.ok persisted) => exact ⟨follows, nofun⟩
  | some (.error error) =>
    by_cases retried : error.isRetryable = true
    · obtain ⟨calendar, rfl⟩ := failed error rfl
      simp only [thenEnsures, if_pos retried]
      have told : context.Tells ((site.make []).withCalendar calendar).catalog := tells
      refine Steps.ensures_pause_bind ⟨follows.none, nofun⟩
        (Ensures.bind ((follows_refresh told).mono ?_))
      rintro outcome _ ⟨_, _, ⟨later, rfl⟩, begun, whole⟩
      rw [List.prefix_nil.mp begun, Site.make_nil, Site.make_nil]
      have unchanged := site.made_nil_withCalendar later
      match outcome with
      | none => exact ⟨.of_withCalendar (Site.follows_none _), nofun⟩
      | some (.error error) =>
        exact ⟨.of_withCalendar (Site.follows_error _ error), fun _ _ => unchanged⟩
      | some (.ok pair) =>
        obtain rfl := (whole pair rfl).2
        have still : context.Tells (site.withCalendar later).catalog := tells
        exact Ensures.mono (ensures_write still path) fun outcome last ends =>
          ⟨ends.1.of_withCalendar, fun error same => unchanged.trans (ends.2 error same)⟩
    · simp only [thenEnsures, if_neg retried]
      exact ⟨follows, fun _ _ => failed error rfl⟩

theorem follows_persist (tells : context.Tells site.catalog) (path : WritePath) :
    Ensures Steps.disturbed (site.Follows (context.candidateWrites site.catalog path)
      fun _ => context.IsCandidate) (context.persist path) site :=
  (ensures_persist tells path).mono fun _ _ => And.left

/-! ### The writes to the parents -/

theorem follows_promoteEdition (persisted : Version) :
    Ensures Steps.disturbed
      (site.Follows (context.details.editionWrites site.catalog persisted.versionLink)
        fun _ (_ : Unit) => ∃ edition, site.catalog.editions.get?
            (context.details.datasetId, context.details.edition) = some edition ∧
          ∃ target, persisted.versionLink = some target ∧ target.href.isEmpty = false)
      (context.promoteEdition persisted) site := by
  refine Steps.follows_read_andThen (fun _ _ => rfl) fun edition calendar answered => ?_
  obtain ⟨now, answered⟩ := answered
  have found := (Catalog.getEdition_eq_ok_iff.mp answered).1
  refine Steps.follows_now fun now calendar => ?_
  rcases promoted : edition.promote now persisted.versionLink with ⟨document, error | ⟨⟩⟩
  · exact Steps.follows_done_error error
  · have aimed := (Edition.promote_eq_ok_iff _ _).mp (congrArg Prod.snd promoted)
    refine Steps.follows_store_of
      (.upsertEdition context.details.datasetId context.details.edition document)
      fun _ => ⟨now, ?_, fun _ _ => ⟨edition, found, aimed⟩⟩
    simp [VersionDetails.editionWrites, found, promoted, StoreCall.writes]

theorem follows_publishInstance (isStatic : Bool) (persisted : Version) :
    Ensures Steps.disturbed
      (site.Follows
        (fun _ : Unit => if isStatic then [] else site.catalog.publishWrites persisted.id)
        fun _ (_ : Unit) => isStatic = false →
          ∃ record, site.catalog.instances.get? persisted.id = some record)
      (publishInstance isStatic persisted) site := by
  cases isStatic with
  | true => exact Steps.follows_done_ok () rfl nofun
  | false =>
    refine Steps.follows_store_of (.publishInstance persisted.id) fun _ =>
      ⟨(), rfl, fun _ answered _ => ?_⟩
    change (site.catalog.publishInstance persisted.id).1 = _ at answered
    cases found : site.catalog.instances.get? persisted.id with
    | some record => exact ⟨record, rfl⟩
    | none => simp [Catalog.publishInstance, found] at answered

theorem follows_promoteDataset (persisted : Version) :
    Ensures Steps.disturbed
      (site.Follows (context.details.datasetWrites context.dataset persisted) fun _ _ => True)
      (context.promoteDataset persisted) site := by
  refine Steps.follows_now fun now calendar => ?_
  exact Steps.follows_store_of (.upsertDataset context.details.datasetId
    (context.dataset.promote now persisted)) fun _ => ⟨now, rfl, fun _ _ => trivial⟩

theorem follows_generateDownloads (type : DatasetType) :
    Ensures Steps.disturbed (site.Follows (fun _ : Unit => []) fun _ _ => True)
      (context.generateDownloads type) site :=
  Steps.follows_require fun generator _ => Steps.follows_generate generator _

end TransitionContext

/-! ### Handlers -/

namespace Handler

/-- What a handler does after it has written the version. -/
def afterwards (context : TransitionContext) (type : DatasetType) (persisted : Version) :
    Handler → Steps (Result Version)
  | draft | editionConfirmed | terminal => .done (.ok persisted)
  | associated =>
    if type.isStatic then .done (.ok persisted)
    else
      (Steps.store (.associate context.details.datasetId .associated persisted)).andThen fun () =>
      if context.hasDownloads then .done (.ok persisted)
      else (context.generateDownloads type).andThen fun () => .done (.ok persisted)
  | published =>
    (context.promoteEdition persisted).andThen fun () =>
    (TransitionContext.publishInstance type.isStatic persisted).andThen fun () =>
    (Steps.store (.getDatasetType context.details.datasetId true)).andThen fun datasetType =>
    (context.promoteDataset persisted).andThen fun () =>
    if !TransitionContext.hasPublicCsv persisted && !context.hasDownloads && !type.isStatic then
      (context.generateDownloads datasetType).andThen fun () => .done (.ok persisted)
    else .done (.ok persisted)

/-- With a complete candidate every handler writes the version by the path of its type and then goes
on in its own way. -/
theorem steps_eq (context : TransitionContext) (handler : Handler)
    (valid : context.candidate.validate = .ok ()) :
    handler.steps context = Steps.require context.type fun type =>
      (context.persist (.forStatic type.isStatic)).andThen (handler.afterwards context type) := by
  have same (proceed : Steps (Result Version)) :
      Steps.require context.candidate.validate (fun () => proceed) = proceed := by
    rw [valid]
    rfl
  cases handler with
  | draft | terminal =>
    simp [steps, TransitionContext.persistByType, afterwards, Steps.andThen_done]
  | editionConfirmed =>
    simp [steps, same, TransitionContext.persistByType, afterwards, Steps.andThen_done]
  | associated => exact same _
  | published => exact same _

end Handler

/-! ### After the version was written -/

/-- What a handler may do after it has written the version: read and write the parents, read the
calendar, and ask a generator. -/
def Action.IsForParents : Action → Prop
  | .store (.getEdition _ _ _) | .store (.getDatasetType _ _) | .store (.upsertEdition _ _ _)
  | .store (.upsertDataset _ _) | .store (.associate _ _ _) | .store (.publishInstance _)
  | .generate _ _ | .now => True
  | _ => False

/-- No version is written for the sake of the parents. -/
theorem Action.IsForParents.not_version_mem_writes {action : Action} (parents : action.IsForParents)
    {site : Site} {slot : VersionKey} {document : Version} :
    Write.version slot document ∉ site.writes action := by
  intro member
  cases action with
  | generate | pause | now => cases member
  | store call =>
    rcases Catalog.version_mem_writes member with ⟨version, rfl⟩ | ⟨_, _, _, _, _, rfl, _⟩ <;>
      cases parents

/-- The steps are for the parents only. -/
def Steps.ForParents (steps : Steps α) : Prop :=
  Program.Upholds (fun _ _ => True) Action.IsForParents (fun _ => True) steps

/-- Whatever they are answered, the steps take such actions only. -/
def Steps.Take (fine : Action → Prop) (steps : Steps α) : Prop :=
  Program.Upholds (fun _ _ => True) fine (fun _ => True) steps

namespace Steps

variable {fine : Action → Prop}

theorem take_store {call : StoreCall} (allowed : fine (.store call)) : (store call).Take fine :=
  ⟨allowed, fun _ _ => trivial⟩

theorem take_now {next : Timestamp → Steps α} (allowed : fine .now)
    (two : ∀ now, (next now).Take fine) : Take fine (now.bind next) :=
  ⟨allowed, fun now _ => two now⟩

theorem Take.assures {steps : Steps (Result α)} (take : steps.Take fine) :
    steps.Assures (fun _ _ => True) fine fun _ => True :=
  Program.Upholds.mono take fun _ _ _ _ => trivial

theorem take_andThen {first : Steps (Result α)} {next : α → Steps (Result β)}
    (one : first.Take fine) (two : ∀ value, (next value).Take fine) :
    (first.andThen next).Take fine := by
  refine (Program.upholds_bind first _).mpr (Program.Upholds.mono one fun result _ => ?_)
  cases result with
  | error error => exact trivial
  | ok value => exact two value

theorem take_require {result : Result α} {next : α → Steps (Result β)}
    (two : ∀ value, result = .ok value → (next value).Take fine) :
    (require result next).Take fine := by
  cases result with
  | error error => exact trivial
  | ok value => exact two value rfl

end Steps

namespace Handler

/-- What a handler may do after it has written the version: only the handler of publication promotes
the edition and the dataset, and marks the instance published; only the one of association records
one. -/
inductive MayTake (context : TransitionContext) (persisted : Version) : Handler → Action → Prop
  | readEdition :
    MayTake context persisted published
      (.store (.getEdition context.details.datasetId context.details.edition ETag.any))
  | promoteEdition {edition promoted : Edition} {now : Timestamp} :
    edition.promote now persisted.versionLink = (promoted, .ok ()) →
    MayTake context persisted published
      (.store (.upsertEdition context.details.datasetId context.details.edition promoted))
  | publishInstance : MayTake context persisted published (.store (.publishInstance persisted.id))
  | readType :
    MayTake context persisted published (.store (.getDatasetType context.details.datasetId true))
  | promoteDataset (now : Timestamp) :
    MayTake context persisted published
      (.store (.upsertDataset context.details.datasetId (context.dataset.promote now persisted)))
  | associate :
    MayTake context persisted associated
      (.store (.associate context.details.datasetId .associated persisted))
  | generate (handler : Handler) (generator : Generator) (request : GenerateRequest) :
    MayTake context persisted handler (.generate generator request)
  | now (handler : Handler) : MayTake context persisted handler .now

theorem MayTake.isForParents {context : TransitionContext} {persisted : Version}
    {handler : Handler} {action : Action} (may : handler.MayTake context persisted action) :
    action.IsForParents := by
  cases may <;> trivial

section Taking

variable {context : TransitionContext} {persisted : Version}

theorem assures_generateDownloads_if (handler : Handler) (asked : Bool) (type : DatasetType) :
    Steps.Assures (fun _ _ => True) (handler.MayTake context persisted) (· = persisted)
      (if asked then
        (context.generateDownloads type).andThen fun () => .done (.ok persisted)
      else .done (.ok persisted)) := by
  cases asked with
  | false => exact Steps.assures_ok rfl
  | true =>
    have asks : (context.generateDownloads type).Take (handler.MayTake context persisted) :=
      Steps.take_require fun generator _ => ⟨.generate handler generator _, fun _ _ => trivial⟩
    exact Steps.assures_andThen asks.assures fun _ _ => Steps.assures_ok rfl

theorem take_generateDownloads_if (handler : Handler) (asked : Bool) (type : DatasetType) :
    Steps.Take (handler.MayTake context persisted)
      (if asked then
        (context.generateDownloads type).andThen fun () => .done (.ok persisted)
      else .done (.ok persisted)) :=
  (assures_generateDownloads_if handler asked type).mono fun _ _ => trivial

theorem take_promoteEdition :
    (context.promoteEdition persisted).Take (published.MayTake context persisted) := by
  refine Steps.take_andThen (Steps.take_store .readEdition)
    fun edition => Steps.take_now (.now _) fun now => ?_
  rcases promoted : edition.promote now persisted.versionLink with ⟨document, error | ⟨⟩⟩
  · exact trivial
  · exact Steps.take_store (.promoteEdition promoted)

theorem take_publishInstance (isStatic : Bool) :
    (TransitionContext.publishInstance isStatic persisted).Take
      (published.MayTake context persisted) := by
  cases isStatic with
  | true => exact trivial
  | false => exact Steps.take_store .publishInstance

theorem take_promoteDataset :
    (context.promoteDataset persisted).Take (published.MayTake context persisted) :=
  Steps.take_now (.now _) fun now => Steps.take_store (.promoteDataset now)

end Taking

/-- Every handler goes on as it may, and answers the version that was written when it succeeds. -/
theorem assures_afterwards (context : TransitionContext) (handler : Handler) (type : DatasetType)
    (persisted : Version) :
    (handler.afterwards context type persisted).Assures (fun _ _ => True)
      (handler.MayTake context persisted) (· = persisted) := by
  have answers : Steps.Assures (fun _ _ => True) (handler.MayTake context persisted)
      (· = persisted) (.done (.ok persisted)) := Steps.assures_ok rfl
  cases handler with
  | draft | editionConfirmed | terminal => exact answers
  | associated =>
    unfold afterwards
    cases type.isStatic with
    | true => exact answers
    | false =>
      refine Steps.assures_andThen (Steps.take_store .associate).assures fun _ _ => ?_
      cases context.hasDownloads with
      | true => exact answers
      | false => exact assures_generateDownloads_if associated true type
  | published =>
    refine Steps.assures_andThen take_promoteEdition.assures fun _ _ => ?_
    refine Steps.assures_andThen (take_publishInstance _).assures fun _ _ => ?_
    refine Steps.assures_andThen (Steps.take_store .readType).assures fun datasetType _ => ?_
    exact Steps.assures_andThen take_promoteDataset.assures
      fun _ _ => assures_generateDownloads_if _ _ datasetType

theorem take_afterwards (context : TransitionContext) (handler : Handler) (type : DatasetType)
    (persisted : Version) :
    (handler.afterwards context type persisted).Take (handler.MayTake context persisted) :=
  (assures_afterwards context handler type persisted).mono fun _ _ => trivial

/-- Every handler goes on with the parents only. -/
theorem forParents_afterwards (context : TransitionContext) (handler : Handler)
    (type : DatasetType) (persisted : Version) :
    (handler.afterwards context type persisted).ForParents :=
  (take_afterwards context handler type persisted).of_fine fun _ => MayTake.isForParents

section Following

open Program

variable {context : TransitionContext} {site : Site} {type : DatasetType} {persisted : Version}

/-- Downloads, if they are asked for, are the last thing and write nothing. -/
theorem follows_generateDownloads_if (asked : Bool) (type : DatasetType) {holds : Version → Prop}
    (held : holds persisted) :
    Ensures Steps.disturbed (site.Follows (fun _ : Unit => []) fun _ => holds)
      (if asked then
        (context.generateDownloads type).andThen fun () => .done (.ok persisted)
      else .done (.ok persisted)) site := by
  cases asked with
  | false => exact Steps.follows_done_ok () rfl held
  | true =>
    refine (Steps.follows_andThen (fun _ (_ : Unit) => []) (fun _ _ => holds)
      (TransitionContext.follows_generateDownloads type) ?_).mono ?_
    · exact fun _ _ _ _ => Steps.follows_done_ok () rfl held
    · exact fun outcome last follows => follows.mono fun _ => ⟨(), rfl, fun _ => id⟩

theorem follows_afterwards_published (static : type.isStatic = context.candidate.isStatic)
    (state : context.candidate.state = some .published)
    (candidate : context.IsCandidate persisted) :
    Ensures Steps.disturbed
      (site.Follows
        (context.details.parentWrites site.catalog context.dataset context.candidate)
        fun _ => context.HasMoved site.catalog)
      (published.afterwards context type persisted) site := by
  have again := candidate
  obtain ⟨tag, rfl⟩ := candidate
  let instanceWrites :=
    if context.candidate.isStatic then []
    else site.catalog.publishWrites context.candidate.id
  let datasetWrites := context.details.datasetWrites context.dataset context.candidate
  refine (Steps.follows_andThen
    (fun _ (now : Timestamp) => instanceWrites ++ datasetWrites now)
    (fun _ _ => context.HasMoved site.catalog) (TransitionContext.follows_promoteEdition _)
    ?_).mono ?_
  · rintro now ⟨⟩ calendar edition
    have instances : (site.catalog.writeAll (context.details.editionWrites site.catalog
        context.candidate.versionLink now)).instances = site.catalog.instances :=
      (Catalog.others_writeAll_editionWrites _ _ _ _ _).2
    refine (Steps.follows_andThen (fun _ => datasetWrites)
      (fun _ _ => context.HasMoved site.catalog) (TransitionContext.follows_publishInstance _ _)
      ?_).mono ?_
    · rintro ⟨⟩ ⟨⟩ calendar record
      have moved : context.HasMoved site.catalog { context.candidate with eTag := tag } :=
        ⟨again, fun _ => ⟨edition, fun imported => instances ▸ record (static.trans imported)⟩⟩
      refine Steps.follows_read_andThen (fun _ _ => rfl) fun datasetType calendar _ => ?_
      refine (Steps.follows_andThen (fun _ (_ : Unit) => [])
        (fun _ _ => context.HasMoved site.catalog) (TransitionContext.follows_promoteDataset _)
        ?_).mono ?_
      · exact fun _ _ _ _ => follows_generateDownloads_if _ datasetType moved
      · exact fun outcome last follows => follows.mono fun readings =>
          ⟨readings.1, List.append_nil _, fun _ => id⟩
    · refine fun outcome last follows => follows.mono fun readings =>
        ⟨readings.2, congrArg (· ++ _) ?_, fun _ => id⟩
      show (if type.isStatic then [] else (site.catalog.writeAll _).publishWrites _) =
        instanceWrites
      rw [static, Catalog.publishWrites, (Catalog.others_writeAll_editionWrites _ _ _ _ _).2]
      rfl
  · refine fun outcome last follows => follows.mono fun readings =>
      ⟨⟨readings.1, readings.1, readings.2⟩, ?_, fun _ => id⟩
    unfold VersionDetails.parentWrites
    rw [state]
    exact (List.append_assoc _ _ _).symm

theorem follows_afterwards_associated (static : type.isStatic = context.candidate.isStatic)
    (state : context.candidate.state = some .associated) (candidate : context.IsCandidate persisted)
    (found : site.catalog.datasets.get? context.details.datasetId = some context.dataset) :
    Ensures Steps.disturbed
      (site.Follows
        (context.details.parentWrites site.catalog context.dataset context.candidate)
        fun _ => context.HasMoved site.catalog)
      (associated.afterwards context type persisted) site := by
  have moved : context.HasMoved site.catalog persisted :=
    ⟨candidate, fun published => nomatch state.symm.trans published⟩
  unfold afterwards VersionDetails.parentWrites
  rw [state, static]
  cases context.candidate.isStatic with
  | true => exact Steps.follows_done_ok Inhabited.default rfl moved
  | false =>
    let writes := context.details.associationWrites context.dataset context.candidate
    have written : ∀ now, (StoreCall.associate context.details.datasetId .associated
        persisted).writes now site.catalog = writes now := by
      obtain ⟨tag, rfl⟩ := candidate
      intro now
      simp only [StoreCall.writes, found]
      rfl
    refine (Steps.follows_andThen (fun _ (_ : Unit) => []) (fun _ _ => context.HasMoved site.catalog)
      (Steps.follows_store_of (.associate context.details.datasetId .associated persisted)
        fun now => ⟨now, written now, fun _ _ => trivial⟩) ?_).mono ?_
    · rintro now ⟨⟩ calendar -
      cases context.hasDownloads with
      | true => exact Steps.follows_done_ok () rfl moved
      | false => exact follows_generateDownloads_if true type moved
    · exact fun outcome last follows => follows.mono fun readings =>
        ⟨⟨readings.1, readings.1, readings.1⟩, List.append_nil _, fun _ => id⟩

/-- After the version was written the parents follow, each handler in its own way. -/
theorem follows_afterwards {target : State} (static : type.isStatic = context.candidate.isStatic)
    (state : context.candidate.state = some target) (candidate : context.IsCandidate persisted)
    (found : site.catalog.datasets.get? context.details.datasetId = some context.dataset) :
    Ensures Steps.disturbed
      (site.Follows
        (context.details.parentWrites site.catalog context.dataset context.candidate)
        fun _ => context.HasMoved site.catalog)
      ((Handler.default target).afterwards context type persisted) site := by
  cases target with
  | published => exact follows_afterwards_published static state candidate
  | associated => exact follows_afterwards_associated static state candidate found
  | created | submitted | completed | editionConfirmed | detached | failed =>
    refine Steps.follows_done_ok Inhabited.default ?_
      ⟨candidate, fun published => nomatch state.symm.trans published⟩
    simp [VersionDetails.parentWrites, state]

end Following

end Handler

namespace TransitionContext

open Program

variable {context : TransitionContext} {site : Site}

/-- All writes of a move: those for the version, and then those to its parents. -/
def moveWrites (context : TransitionContext) (catalog : Catalog) (times : CascadeTimes) :
    List Write :=
  context.candidateWrites catalog (.forStatic context.candidate.isStatic) times.version ++
    context.details.parentWrites catalog context.dataset context.candidate times

theorem isStatic_of_type {type : DatasetType} (resolved : context.type = .ok type) :
    type.isStatic = context.candidate.isStatic := by
  have found := DatasetType.resolve_eq_ok_iff.mp resolved
  simp [Version.isStatic, found]

/-- The parents of a version are the same before and after it is written. -/
theorem parentWrites_writeAll_candidateWrites (context : TransitionContext) (catalog : Catalog)
    (path : WritePath) (now : Timestamp) :
    context.details.parentWrites (catalog.writeAll (context.candidateWrites catalog path now))
        context.dataset context.candidate =
      context.details.parentWrites catalog context.dataset context.candidate := by
  have parents := (catalog.parents_writeAll_versionWrites path context.details.slot
    (Version.stamp now context.current context.candidate)).2
  funext times
  unfold VersionDetails.parentWrites VersionDetails.editionWrites candidateWrites
  rw [parents, Catalog.publishWrites_writeAll_versionWrites]

/-- What a move finds after it has written the version it finds before. -/
theorem HasMoved.of_writeAll_candidateWrites {catalog : Catalog} {path : WritePath}
    {now : Timestamp} {persisted : Version}
    (moved : context.HasMoved (catalog.writeAll (context.candidateWrites catalog path now))
      persisted) : context.HasMoved catalog persisted where
  candidate := moved.candidate
  releasable published := by
    obtain ⟨edition, record⟩ := moved.releasable published
    have editions := (catalog.parents_writeAll_versionWrites path context.details.slot
      (Version.stamp now context.current context.candidate)).2
    have records := catalog.exists_instance_writeAll_versionWrites path context.details.slot
      (Version.stamp now context.current context.candidate)
    exact ⟨editions ▸ edition, fun imported => (records _).mp (record imported)⟩

/-- The default handlers follow the writes of their moves. -/
theorem follows_steps {target : State} (tells : context.Tells site.catalog)
    (valid : context.candidate.validate = .ok ()) (state : context.candidate.state = some target) :
    Ensures Steps.disturbed
      (site.Follows (context.moveWrites site.catalog) fun _ => context.HasMoved site.catalog)
      ((Handler.default target).steps context) site := by
  rw [Handler.steps_eq context _ valid]
  refine Steps.follows_require fun type resolved => ?_
  have static := isStatic_of_type resolved
  rw [static]
  let written (now : Timestamp) : Catalog := site.catalog.writeAll
    (context.candidateWrites site.catalog (.forStatic context.candidate.isStatic) now)
  refine (Steps.follows_andThen
    (fun _ => context.details.parentWrites site.catalog context.dataset context.candidate)
    (fun now _ => context.HasMoved (written now)) (follows_persist tells _) ?_).mono ?_
  · intro now persisted calendar candidate
    rw [← parentWrites_writeAll_candidateWrites context site.catalog _ now]
    refine Handler.follows_afterwards static state candidate ?_
    exact (congrArg (Collection.get? · _)
      (site.catalog.parents_writeAll_versionWrites _ _ _).1).trans tells.dataset
  · exact fun outcome last follows => follows.mono fun readings =>
      ⟨{ readings.2 with version := readings.1 }, rfl,
        fun _ moved => moved.of_writeAll_candidateWrites⟩

/-- A move passes its checks exactly when the candidate is complete and the rules allow it. -/
theorem checkMove_eq_ok_iff {table : TransitionTable} {current candidate : Version} :
    checkMove table current candidate = .ok () ↔
      candidate.validate = .ok () ∧ ∃ target type, candidate.state = some target ∧
        candidate.resolvedType = .ok type ∧ table.check current.state target type = .ok () := by
  unfold checkMove
  cases valid : candidate.validate with
  | error error => simp [Bind.bind, Except.bind]
  | ok =>
    cases state : candidate.state with
    | none => simp [Bind.bind, Except.bind]
    | some target =>
      cases resolved : candidate.resolvedType <;> simp [Bind.bind, Except.bind]

end TransitionContext

/-! ### The steps under the lock -/

namespace Machine

open Program

variable {machine : Machine} {site : Site}

/-- The context of a move. -/
def context (machine : Machine) (details : VersionDetails) (update : Version)
    (options : AmendOptions) (dataset : Dataset) (current : Version) : TransitionContext where
  generators := machine.generators
  transitions := machine.transitions
  details := details
  dataset := dataset
  current := current
  candidate := Version.combine current update
  update := update
  ifMatch := options.ifMatch
  hasDownloads := options.hasDownloads

theorem follows_move (standard : machine.handlers = {}) {details : VersionDetails}
    {update current : Version} {options : AmendOptions} {dataset : Dataset}
    (tells : (machine.context details update options dataset current).Tells site.catalog) :
    Ensures Steps.disturbed
      (site.Follows
        ((machine.context details update options dataset current).moveWrites site.catalog)
        fun _ => (machine.context details update options dataset current).HasMoved site.catalog)
      (machine.move details update options dataset current) site := by
  refine Steps.follows_require fun checked passed => ?_
  obtain ⟨valid, target, type, state, -⟩ := TransitionContext.checkMove_eq_ok_iff.mp passed
  simp only [state, standard]
  exact TransitionContext.follows_steps tells valid state

/-- The steps under the lock follow the cascade of the version, and succeed only when they have
found the version and its dataset, and all that it needs to be published if it was. -/
theorem releases_locked (standard : machine.handlers = {}) (details : VersionDetails)
    (update : Version) (options : AmendOptions) (filed : site.catalog.WellFiled) :
    Ensures Steps.disturbed
      (site.Follows (details.cascade update site.catalog) fun _ _ => ∃ dataset stored,
        site.catalog.datasets.get? details.datasetId = some dataset ∧
          site.catalog.versions.get? details.slot = some stored ∧
          ((Version.combine stored update).state = some .published →
            details.Releasable site.catalog (Version.combine stored update)))
      (machine.locked details update options) site := by
  refine Steps.follows_read_andThen (fun _ _ => rfl) fun dataset _ ⟨_, readDataset⟩ => ?_
  refine Steps.follows_read_andThen (fun _ _ => rfl) fun _ _ _ => ?_
  refine Steps.follows_read_andThen (fun _ _ => rfl) fun current _ ⟨_, readVersion⟩ => ?_
  have stored : site.catalog.datasets.get? details.datasetId = some dataset :=
    Catalog.getDataset_eq_ok_iff.mp readDataset
  have found : site.catalog.versions.get? details.slot = some current :=
    (Catalog.getVersion_eq_ok_iff.mp readVersion).1
  have cascade : details.cascade update site.catalog =
      (machine.context details update options dataset current).moveWrites site.catalog := by
    funext times
    simp only [VersionDetails.cascade, found, stored]
    rfl
  rw [cascade]
  refine Ensures.mono (follows_move standard ⟨found, filed _ _ found, stored, rfl⟩) ?_
  exact fun outcome last follows => follows.mono fun readings =>
    ⟨readings, rfl, fun _ moved => ⟨dataset, current, stored, found, moved.releasable⟩⟩

/-- The steps under the lock follow the cascade of the version. -/
theorem follows_locked (standard : machine.handlers = {}) (details : VersionDetails)
    (update : Version) (options : AmendOptions) (filed : site.catalog.WellFiled) :
    Ensures Steps.disturbed
      (site.Follows (details.cascade update site.catalog) fun _ _ => True)
      (machine.locked details update options) site :=
  (releases_locked standard details update options filed).mono fun _ _ follows =>
    follows.mono fun readings => ⟨readings, rfl, fun _ _ => trivial⟩

end Machine

end ReleaseCatalog
