/-
Which cascade runs. The handler of a request, the path by which it writes the version and the
instance for which it asks for downloads are chosen once, by the candidate that was merged first.
When that write has lost a race the version is read again and merged anew; so the version that is
persisted may come of another document than the choice did.

As long as the documents that a request reads agree on what it chooses by, the cascade that runs is
that of the version that was persisted. When they do not it may be another one.
-/

import Mathlib
import ReleaseCatalog.Proofs.Workflow.CompareAndSwap

namespace ReleaseCatalog

open Program (Event Upholds Runs)

/-! ### What a request chooses by -/

namespace Version

/-- Two versions that are carried out alike: they have the same instance, type and state. -/
structure Alike (first second : Version) : Prop where
  id : first.id = second.id
  type : first.type = second.type
  state : first.state = second.state

/-- Two stored versions that an update makes candidates of that are carried out alike. -/
structure AlikeFor (update first second : Version) : Prop where
  id : first.id = second.id
  type : first.type = second.type
  state : update.state = none → first.state = second.state

variable {update first second : Version}

theorem AlikeFor.combine (alike : AlikeFor update first second) :
    (combine first update).Alike (combine second update) where
  id := alike.id
  type := alike.type
  state := by
    show (update.state <|> first.state) = (update.state <|> second.state)
    cases given : update.state with
    | none => exact alike.state given
    | some state => rfl

theorem Alike.isStatic_eq (alike : first.Alike second) : first.isStatic = second.isStatic := by
  unfold isStatic
  rw [alike.type]

end Version

/-! ### What a request has done -/

/-- The action that a call attempts. -/
def Call.attempts? : Call → Option Action
  | .act action => some action
  | .actBefore _ action => some action
  | _ => none

/-- The call has made a call on the store that succeeded with a value. -/
inductive Call.Accomplishes : (call : Call) → call.Answer → (request : StoreCall) →
    request.Value → Prop
  | act (request : StoreCall) (value : request.Value) :
    Accomplishes (.act (.store request)) (.ok value : request.Answer) request value
  | inTime (expiry : Instant) (request : StoreCall) (value : request.Value) :
    Accomplishes (.actBefore expiry (.store request)) (some (.ok value : request.Answer)) request
      value

/-- The version that a call has read. -/
def Call.read? : (call : Call) → call.Answer → Option Version
  | .act (.store (.getVersion _ _ _ _)), .ok document => some document
  | .actBefore _ (.store (.getVersion _ _ _ _)), some (.ok document) => some document
  | _, _ => none

namespace Request

variable (events : List (Event Call.Answer Site))

/-- One of the calls has attempted the action. -/
def Attempted (action : Action) : Prop :=
  ∃ event ∈ events, event.call.attempts? = some action

/-- One of the calls has made a call on the store that succeeded with a value. -/
def Accomplished (request : StoreCall) (value : request.Value) : Prop :=
  ∃ event ∈ events, event.call.Accomplishes event.answer request value

/-- The versions that the calls have read. -/
def reads : List Version :=
  events.filterMap fun event => event.call.read? event.answer

/-- All versions that were read agree on what the update does not decide. -/
def Steady (update : Version) : Prop :=
  ∀ first ∈ reads events, ∀ second ∈ reads events, Version.AlikeFor update first second

end Request

/-- The calls of a request were the cascade of a version that they have persisted. -/
structure VersionDetails.Cascaded (details : VersionDetails) (persisted : Version)
    (events : List (Event Call.Answer Site)) : Prop where
  /-- The version was stamped over the one in its slot. -/
  stored : ∃ event ∈ events, ∃ existing,
    event.before.catalog.versions.get? details.slot = some existing ∧
      Write.version details.slot (Version.stamp event.before.now existing persisted) ∈
        Site.written event
  /-- It was written by the path of its type. -/
  path {path : WritePath} {current candidate : Version} {selector : String} :
    Request.Attempted events (.store (.updateVersion path current candidate selector)) →
      path = .forStatic persisted.isStatic
  /-- An association is recorded only if it is an imported version in a collection. -/
  association {id : String} {state : State} {version : Version} :
    Request.Attempted events (.store (.associate id state version)) →
      persisted.isStatic = false ∧ persisted.state = some .associated
  associated : persisted.isStatic = false → persisted.state = some .associated →
    Request.Accomplished events (.associate details.datasetId .associated persisted) ()
  /-- The edition and the dataset are written only if it is published. -/
  edition {datasetId edition : String} {document : Edition} :
    Request.Attempted events (.store (.upsertEdition datasetId edition document)) →
      persisted.state = some .published
  dataset {id : String} {document : Dataset} :
    Request.Attempted events (.store (.upsertDataset id document)) →
      persisted.state = some .published
  promotedEdition : persisted.state = some .published →
    ∃ (edition : Edition) (now : Timestamp) (document : Edition),
      edition.promote now persisted.versionLink = (document, .ok ()) ∧
        Request.Accomplished events
          (.upsertEdition details.datasetId details.edition document) ()
  promotedDataset : persisted.state = some .published →
    ∃ (dataset : Dataset) (now : Timestamp),
      Request.Accomplished events
        (.upsertDataset details.datasetId (dataset.promote now persisted)) ()
  /-- Downloads are asked for its instance. -/
  downloads {generator : Generator} {request : GenerateRequest} :
    Request.Attempted events (.generate generator request) → request.instanceId = persisted.id

/-! ### Steps that keep to what was chosen -/

section Choice

variable (update model : Version) (made : (call : StoreCall) → call.Value → Prop)

/-- What can be said of an answer: a version that was read stands in its slot and agrees with the
model on what the update does not decide, and other calls that succeeded have been made. -/
def Action.Tells : (action : Action) → action.Answer → Prop
  | .store (.getVersion datasetId edition number _), .ok document =>
    document.key = ⟨datasetId, edition, number⟩ ∧ Version.AlikeFor update document model
  | .store call, .ok value => made call value
  | _, _ => True

/-- The action is one of the cascade of a candidate. -/
def Action.IsOfCascade (candidate : Version) : Action → Prop
  | .store (.updateVersion path _ _ _) => path = .forStatic candidate.isStatic
  | .store (.associate _ _ _) =>
    candidate.isStatic = false ∧ candidate.state = some .associated
  | .store (.upsertEdition _ _ _) | .store (.upsertDataset _ _) =>
    candidate.state = some .published
  | .generate _ request => request.instanceId = candidate.id
  | _ => True

/-- As long as versions agree with the model the steps keep to the cascade of its candidate. -/
abbrev Steps.KeepsTo {α : Type} (holds : α → Prop) (steps : Steps (Result α)) : Prop :=
  steps.Assures (Action.Tells update model made)
    (Action.IsOfCascade (Version.combine model update)) holds

/-- The version is like the candidate, and has been written. -/
structure VersionDetails.Persists (details : VersionDetails) (persisted : Version) : Prop where
  alike : persisted.Alike (Version.combine model update)
  written : ∃ path current candidate selector tag, current.key = details.slot ∧
    made (.updateVersion path current candidate selector) tag ∧
    persisted = { candidate with eTag := tag }

/-- The version has been persisted with all its cascade. -/
structure VersionDetails.Completes (details : VersionDetails) (persisted : Version) : Prop extends
    details.Persists update model made persisted where
  associated : persisted.isStatic = false → persisted.state = some .associated →
    made (.associate details.datasetId .associated persisted) ()
  promotedEdition : persisted.state = some .published →
    ∃ (edition : Edition) (now : Timestamp) (document : Edition),
      edition.promote now persisted.versionLink = (document, .ok ()) ∧
        made (.upsertEdition details.datasetId details.edition document) ()
  promotedDataset : persisted.state = some .published →
    ∃ (dataset : Dataset) (now : Timestamp),
      made (.upsertDataset details.datasetId (dataset.promote now persisted)) ()

end Choice

section Keeping

variable {update model : Version} {made : (call : StoreCall) → call.Value → Prop} {α β : Type}

namespace TransitionContext

variable {context : TransitionContext} {type : DatasetType} {persisted : Version}

/-- A candidate like the first one is written by the path that was chosen. -/
theorem keepsTo_write {path : WritePath} {current candidate : Version}
    (chosen : path = .forStatic (Version.combine model update).isStatic)
    (own : current.key = context.details.slot)
    (alike : candidate.Alike (Version.combine model update)) :
    Steps.KeepsTo update model made (context.details.Persists update model made)
      (context.write path current candidate) := by
  let call := StoreCall.updateVersion path current candidate (context.writeSelector current)
  have writes : Steps.KeepsTo update model made (fun tag : String => made call tag)
      (Steps.store call) := Steps.assures_store chosen fun tag told => told
  refine Steps.assures_andThen writes fun tag wrote => Steps.assures_ok ⟨?_, ?_⟩
  · exact ⟨alike.id, alike.type, alike.state⟩
  · exact ⟨path, current, candidate, _, tag, own, wrote, rfl⟩

/-- A version that is read again makes a candidate like the first one. -/
theorem keepsTo_refresh (same : context.update = update) :
    Steps.KeepsTo update model made
      (fun pair : Version × Version => pair.1.key = context.details.slot ∧
        pair.2.Alike (Version.combine model update)) context.refresh := by
  have reads : Steps.KeepsTo update model made
      (fun current : Version => current.key = context.details.slot ∧
        Version.AlikeFor update current model)
      (Steps.store (.getVersion context.details.datasetId context.details.edition
        context.details.number context.ifMatch)) :=
    Steps.assures_store trivial fun current told => told
  refine Steps.assures_andThen reads fun current ⟨own, alike⟩ => ?_
  rw [same]
  exact Steps.assures_require fun _ _ => Steps.assures_ok ⟨own, alike.combine⟩

/-- Whichever attempt succeeds, a version like the first candidate is persisted. -/
theorem keepsTo_persist {path : WritePath}
    (chosen : path = .forStatic (Version.combine model update).isStatic)
    (same : context.update = update) (own : context.current.key = context.details.slot)
    (alike : context.candidate.Alike (Version.combine model update)) :
    Steps.KeepsTo update model made (context.details.Persists update model made)
      (context.persist path) := by
  refine Steps.assures_bind (keepsTo_write chosen own alike) (fun _ held => Steps.assures_ok held)
    fun error => ?_
  by_cases retried : error.isRetryable = true
  · simp only [if_pos retried]
    exact Steps.assures_act_bind trivial fun _ => Steps.assures_andThen (keepsTo_refresh same)
      fun pair found => keepsTo_write chosen found.1 found.2
  · simp only [if_neg retried]
    exact Steps.assures_error error

theorem keepsTo_generateDownloads (alike : context.candidate.Alike (Version.combine model update)) :
    Steps.KeepsTo update model made (fun _ => True) (context.generateDownloads type) := by
  refine Steps.assures_require fun generator _ => ⟨alike.id, fun answer _ => ?_⟩
  exact fun _ _ => trivial

/-- Downloads, if they are asked for, are the last thing. -/
theorem keepsTo_generateDownloads_if (asked : Bool) {holds : Version → Prop}
    (alike : context.candidate.Alike (Version.combine model update)) (held : holds persisted) :
    Steps.KeepsTo update model made holds
      (if asked then
        (context.generateDownloads type).andThen fun () => .done (.ok persisted)
      else .done (.ok persisted)) := by
  cases asked with
  | false => exact Steps.assures_ok held
  | true =>
    exact Steps.assures_andThen (keepsTo_generateDownloads alike) fun _ _ => Steps.assures_ok held

theorem keepsTo_promoteEdition (published : (Version.combine model update).state = some .published) :
    Steps.KeepsTo update model made
      (fun _ : Unit => ∃ (edition : Edition) (now : Timestamp) (document : Edition),
        edition.promote now persisted.versionLink = (document, .ok ()) ∧
          made (.upsertEdition context.details.datasetId context.details.edition document) ())
      (context.promoteEdition persisted) := by
  have reads : Steps.KeepsTo update model made (fun _ : Edition => True)
      (Steps.store (.getEdition context.details.datasetId context.details.edition ETag.any)) :=
    Steps.assures_store trivial fun _ _ => trivial
  refine Steps.assures_andThen reads fun edition _ => ?_
  refine Steps.assures_act_bind trivial fun now => ?_
  rcases promoted : edition.promote now persisted.versionLink with ⟨document, error | ⟨⟩⟩
  · exact Steps.assures_error error
  · exact Steps.assures_store published fun _ told => ⟨edition, now, document, promoted, told⟩

theorem keepsTo_publishInstance (isStatic : Bool) :
    Steps.KeepsTo update model made (fun _ : Unit => True) (publishInstance isStatic persisted) := by
  cases isStatic with
  | true => exact Steps.assures_ok trivial
  | false => exact Steps.assures_store trivial fun _ _ => trivial

theorem keepsTo_promoteDataset (published : (Version.combine model update).state = some .published) :
    Steps.KeepsTo update model made
      (fun _ : Unit => ∃ (dataset : Dataset) (now : Timestamp),
        made (.upsertDataset context.details.datasetId (dataset.promote now persisted)) ())
      (context.promoteDataset persisted) :=
  Steps.assures_act_bind trivial fun now =>
    Steps.assures_store published fun _ told => ⟨context.dataset, now, told⟩

end TransitionContext

namespace Handler

variable {context : TransitionContext} {type : DatasetType} {persisted : Version}

/-- What every handler does after it has persisted the version completes the cascade. -/
theorem keepsTo_afterwards {target : State}
    (alike : context.candidate.Alike (Version.combine model update))
    (state : context.candidate.state = some target)
    (static : type.isStatic = context.candidate.isStatic)
    (persists : context.details.Persists update model made persisted) :
    Steps.KeepsTo update model made (context.details.Completes update model made)
      ((Handler.default target).afterwards context type persisted) := by
  have here : persisted.state = some target := by
    rw [persists.alike.state, ← alike.state, state]
  have other {wanted : State} (differ : target ≠ wanted) : persisted.state ≠ some wanted := by
    rw [here]
    exact fun same => differ (Option.some_inj.mp same)
  have chosen : type.isStatic = (Version.combine model update).isStatic := by
    rw [static, alike.isStatic_eq]
  cases target with
  | created | submitted | completed | editionConfirmed | detached | failed =>
    exact Steps.assures_ok ⟨persists, fun _ same => absurd same (other State.noConfusion),
      fun same => absurd same (other State.noConfusion),
      fun same => absurd same (other State.noConfusion)⟩
  | associated =>
    have unpublished : persisted.state ≠ some .published := other State.noConfusion
    unfold Handler.default afterwards
    cases imported : type.isStatic with
    | true =>
      rw [chosen, ← persists.alike.isStatic_eq] at imported
      refine Steps.assures_ok ⟨persists, fun other => ?_, fun same => absurd same unpublished,
        fun same => absurd same unpublished⟩
      rw [imported] at other
      cases other
    | false =>
      have fine : Action.IsOfCascade (Version.combine model update)
          (.store (.associate context.details.datasetId .associated persisted)) :=
        ⟨chosen ▸ imported, persists.alike.state ▸ here⟩
      have associates : Steps.KeepsTo update model made
          (fun _ : Unit => made (.associate context.details.datasetId .associated persisted) ())
          (Steps.store (.associate context.details.datasetId .associated persisted)) :=
        Steps.assures_store fine fun _ told => told
      refine Steps.assures_andThen associates fun _ associated => ?_
      have completes : context.details.Completes update model made persisted :=
        ⟨persists, fun _ _ => associated, fun same => absurd same unpublished,
          fun same => absurd same unpublished⟩
      cases context.hasDownloads with
      | true => exact Steps.assures_ok completes
      | false => exact TransitionContext.keepsTo_generateDownloads_if true alike completes
  | published =>
    have published : (Version.combine model update).state = some .published :=
      persists.alike.state ▸ here
    refine Steps.assures_andThen (TransitionContext.keepsTo_promoteEdition published)
      fun _ edition => ?_
    refine Steps.assures_andThen (TransitionContext.keepsTo_publishInstance type.isStatic)
      fun _ _ => ?_
    have looks : Steps.KeepsTo update model made (fun _ : DatasetType => True)
        (Steps.store (.getDatasetType context.details.datasetId true)) :=
      Steps.assures_store trivial fun _ _ => trivial
    refine Steps.assures_andThen looks fun datasetType _ => ?_
    refine Steps.assures_andThen (TransitionContext.keepsTo_promoteDataset published)
      fun _ dataset => ?_
    exact TransitionContext.keepsTo_generateDownloads_if _ alike
      ⟨persists, fun _ same => absurd same (other State.noConfusion), fun _ => edition,
        fun _ => dataset⟩

end Handler

namespace Machine

variable {machine : Machine} {details : VersionDetails} {options : AmendOptions}

/-- The steps under the lock complete the cascade of what they have persisted. -/
theorem keepsTo_locked (standard : machine.handlers = {}) :
    Steps.KeepsTo update model made (details.Completes update model made)
      (machine.locked details update options) := by
  have reads : Steps.KeepsTo update model made (fun _ : Dataset => True)
      (Steps.store (.getDataset details.datasetId)) :=
    Steps.assures_store trivial fun _ _ => trivial
  refine Steps.assures_andThen reads fun dataset _ => ?_
  have checks : Steps.KeepsTo update model made (fun _ : Unit => True)
      (Steps.store (.checkEdition details.datasetId details.edition none)) :=
    Steps.assures_store trivial fun _ _ => trivial
  refine Steps.assures_andThen checks fun _ _ => ?_
  have finds : Steps.KeepsTo update model made
      (fun current : Version => current.key = details.slot ∧
        Version.AlikeFor update current model)
      (Steps.store
        (.getVersion details.datasetId details.edition details.number options.ifMatch)) :=
    Steps.assures_store trivial fun current told => told
  refine Steps.assures_andThen finds fun current ⟨own, alikeFor⟩ => ?_
  refine Steps.assures_require fun checked passed => ?_
  obtain ⟨valid, target, type, state, -⟩ := TransitionContext.checkMove_eq_ok_iff.mp passed
  simp only [state, standard]
  let context := machine.context details update options dataset current
  have alike : context.candidate.Alike (Version.combine model update) := alikeFor.combine
  rw [Handler.steps_eq _ _ valid]
  refine Steps.assures_require fun type resolved => ?_
  have static : type.isStatic = context.candidate.isStatic :=
    TransitionContext.isStatic_of_type resolved
  have chosen : WritePath.forStatic type.isStatic =
      .forStatic (Version.combine model update).isStatic := by
    rw [static, alike.isStatic_eq]
  have persists : Steps.KeepsTo update model made (details.Persists update model made)
      (context.persist (.forStatic type.isStatic)) :=
    TransitionContext.keepsTo_persist chosen rfl own alike
  refine Steps.assures_andThen persists fun persisted persists => ?_
  exact Handler.keepsTo_afterwards alike state static persists

end Machine

end Keeping

/-! ### Requests that keep to what was chosen -/

section Requests

variable {update model candidate : Version} {made : (call : StoreCall) → call.Value → Prop}

/-- What can be said of the answer to a call, if it was carried out. -/
def Call.Tells (update model : Version) (made : (call : StoreCall) → call.Value → Prop) :
    (call : Call) → call.Answer → Prop
  | .act action, answer => action.Tells update model made answer
  | .actBefore _ action, some answer => action.Tells update model made answer
  | _, _ => True

/-- A call attempts only what is of the cascade of a candidate. -/
def Call.IsOfCascade (candidate : Version) (call : Call) : Prop :=
  ∀ action, call.attempts? = some action → action.IsOfCascade candidate

theorem Request.forwards_cascade :
    Request.Forwards (Action.Tells update model made) (Action.IsOfCascade candidate)
      (Call.Tells update model made) (Call.IsOfCascade candidate) where
  act := id
  inTime := id
  call fine _ same := Option.some_inj.mp same ▸ fine
  callBefore fine _ same := Option.some_inj.mp same ▸ fine
  clock := fun _ => nofun

/-- A request that succeeds has kept to the cascade of what it has persisted. -/
theorem Machine.upholds_cascade {machine : Machine} {identifiers : VersionIdentifiers}
    {details : VersionDetails} {options : AmendOptions} (standard : machine.handlers = {})
    (named : identifiers.resolve = .ok details) :
    Upholds (Call.Tells update model made) (Call.IsOfCascade (Version.combine model update))
      (fun result => ∀ version, result = .ok version → details.Completes update model made version)
      (machine.amend identifiers update options) := by
  unfold amend
  simp only [named]
  by_cases unknown : update.type ≠ "" ∧ DatasetType.resolve? update.type = none
  · rw [if_pos unknown]
    exact fun _ => nofun
  · rw [if_neg unknown]
    refine Request.upholds_amendVersion Request.forwards_cascade trivial (fun _ _ => nofun)
      (fun _ _ _ => nofun) (keepsTo_locked standard)

theorem Call.Accomplishes.before {action : Action} {answer : action.Answer} {request : StoreCall}
    {value : request.Value} (accomplishes : Accomplishes (.act action) answer request value)
    (expiry : Instant) : Accomplishes (.actBefore expiry action) (some answer) request value := by
  cases accomplishes with
  | act => exact .inTime expiry request value

theorem Call.Accomplishes.read {call : Call} {answer : call.Answer} {datasetId edition : String}
    {number : UInt32} {eTag : String} {document : Version}
    (accomplishes : call.Accomplishes answer (.getVersion datasetId edition number eTag) document) :
    call.read? answer = some document := by
  cases accomplishes <;> rfl

theorem Action.tells_of_accomplishes {action : Action} {answer : action.Answer}
    (reads : ∀ datasetId edition number eTag (document : Version),
      Call.Accomplishes (.act action) answer (.getVersion datasetId edition number eTag) document →
        document.key = ⟨datasetId, edition, number⟩ ∧ Version.AlikeFor update document model)
    (makes : ∀ request value, Call.Accomplishes (.act action) answer request value →
      made request value) : action.Tells update model made answer := by
  cases action with
  | generate | pause | now => trivial
  | store request =>
    rcases answer with error | value
    · cases request <;> trivial
    · cases request with
      | getVersion => exact reads _ _ _ _ value (.act _ value)
      | _ => exact makes _ value (.act _ value)

/-- A call tells what is so of all that it has accomplished. -/
theorem Call.tells_of_accomplishes {call : Call} {answer : call.Answer}
    (reads : ∀ datasetId edition number eTag (document : Version),
      call.Accomplishes answer (.getVersion datasetId edition number eTag) document →
        document.key = ⟨datasetId, edition, number⟩ ∧ Version.AlikeFor update document model)
    (makes : ∀ request value, call.Accomplishes answer request value → made request value) :
    call.Tells update model made answer := by
  cases call with
  | instant | acquire | hold | release => trivial
  | act action => exact Action.tells_of_accomplishes reads makes
  | actBefore expiry action =>
    cases answer with
    | none => trivial
    | some answer =>
      show action.Tells update model made answer
      refine Action.tells_of_accomplishes ?_ ?_
      · intro datasetId edition number eTag document accomplishes
        exact reads _ _ _ _ _ (accomplishes.before expiry)
      · intro request value accomplishes
        exact makes _ _ (accomplishes.before expiry)

end Requests

/-! ### Runs among others -/

namespace Site

/-- A call that was accomplished was carried out on the site. -/
theorem Answers.performed {site after : Site} {call : Call} {answer : call.Answer}
    {request : StoreCall} {value : request.Value} (answered : site.Answers call answer after)
    (accomplishes : call.Accomplishes answer request value) :
    (site.catalog.perform site.now request).1 = .ok value ∧
      after = (site.store request).2 := by
  have carried {result : request.Answer} (done : site.Carries (.store request) result after)
      (same : result = .ok value) :
      (site.catalog.perform site.now request).1 = .ok value ∧ after = (site.store request).2 := by
    cases done with
    | served => exact ⟨same, rfl⟩
    | failed => cases same
  cases accomplishes with
  | act =>
    cases answered with
    | act done => exact carried done rfl
  | inTime expiry =>
    cases answered with
    | inTime _ done => exact carried done rfl

end Site

/-- A version that was written was stamped over the one in its slot. -/
theorem Request.exists_written_of_accomplished {events : List (Event Call.Answer Site)}
    (answered : ∀ event ∈ events, event.before.Answers event.call event.answer event.after)
    {path : WritePath} {current candidate : Version} {selector tag : String}
    (accomplished : Accomplished events (.updateVersion path current candidate selector) tag) :
    ∃ event ∈ events, ∃ existing,
      event.before.catalog.versions.get? current.key = some existing ∧
        Write.version current.key (Version.stamp event.before.now existing candidate) ∈
          Site.written event := by
  obtain ⟨event, member, accomplishes⟩ := accomplished
  obtain ⟨performed, after⟩ := (answered event member).performed accomplishes
  have written : Site.written event =
      (StoreCall.updateVersion path current candidate selector).writes event.before.now
        event.before.catalog := by
    unfold Site.written
    rw [after]
    exact List.drop_left
  change (Catalog.updateVersion _ _ _ _ _ _).1 = _ at performed
  cases found : event.before.catalog.versions.get? current.key with
  | none => simp [Catalog.updateVersion, found] at performed
  | some existing =>
    refine ⟨event, member, existing, found, ?_⟩
    rw [Catalog.updateVersion_of_found found] at performed
    rw [written, Catalog.writes_updateVersion_of_found found]
    by_cases admitted : ETag.admits selector existing.eTag = true
    · rw [if_pos admitted]
      exact List.mem_cons_self
    · rw [if_neg admitted] at performed
      cases performed

namespace Machine

variable {machine : Machine} {identifiers : VersionIdentifiers} {update : Version}
  {options : AmendOptions} {site last : Site} {events : List (Event Call.Answer Site)}

/-- The cascade that runs is the cascade of the version that was persisted. Others may do to the
catalog whatever they like between any two calls of the request, and every call may fail. If the
request succeeds, and all versions that it has read agree in their instance, their type and, when the
update gives no state, their state, then it has stamped the version over the one in its slot, by the
path of its type; it has recorded the association exactly if the version is an imported one in a
collection; it has promoted the edition and the dataset exactly if the version is published; and it
has asked for the downloads of no other instance. -/
theorem amend_runs_cascade_of_persisted {persisted : Version} (standard : machine.handlers = {})
    (filed : site.catalog.WellFiled)
    (run : Runs Request.interfered (machine.amend identifiers update options) site events
      (some (.ok persisted)) last)
    (steady : Request.Steady events update) :
    ∃ details, identifiers.resolve = .ok details ∧ details.Cascaded persisted events := by
  cases named : identifiers.resolve with
  | error error =>
    obtain ⟨-, failed⟩ := run.upholds (upholds_of_unresolved named) fun _ _ => trivial
    exact absurd rfl (failed _ rfl persisted)
  | ok details =>
    have files := Request.wellFiled_before filed run
    have answered : ∀ event ∈ events,
        event.before.Answers event.call event.answer event.after :=
      fun event member => run.answers_of_mem member
    -- Any version that was read may stand for all of them.
    obtain ⟨model, agree⟩ : ∃ model, ∀ document ∈ Request.reads events,
        Version.AlikeFor update document model := by
      cases something : Request.reads events with
      | nil => exact ⟨{}, fun document read => (List.not_mem_nil read).elim⟩
      | cons model rest =>
        refine ⟨model, fun document read => ?_⟩
        rw [← something] at read
        exact steady document read model (something ▸ List.mem_cons_self)
    have honestly : ∀ event ∈ events,
        event.call.Tells update model (Request.Accomplished events) event.answer := by
      intro event member
      refine Call.tells_of_accomplishes ?_ fun request value made => ⟨event, member, made⟩
      intro datasetId edition number eTag document accomplishes
      have found := ((answered event member).performed accomplishes).1
      have read : document ∈ Request.reads events :=
        List.mem_filterMap.mpr ⟨event, member, accomplishes.read⟩
      exact ⟨files event member _ _ (Catalog.getVersion_eq_ok_iff.mp found).1,
        agree document read⟩
    obtain ⟨fine, result⟩ := run.upholds (upholds_cascade standard named) honestly
    have completes := result _ rfl persisted rfl
    have allowed {action : Action} (attempted : Request.Attempted events action) :
        action.IsOfCascade (Version.combine model update) := by
      obtain ⟨event, member, attempts⟩ := attempted
      exact fine event member action attempts
    have state := completes.alike.state
    have static := completes.alike.isStatic_eq
    refine ⟨details, rfl, ?_, ?_, ?_, completes.associated, ?_, ?_, completes.promotedEdition,
      completes.promotedDataset, ?_⟩
    · obtain ⟨path, current, candidate, selector, tag, own, made, rfl⟩ := completes.written
      obtain ⟨event, member, existing, found, written⟩ :=
        Request.exists_written_of_accomplished answered made
      rw [own] at found written
      exact ⟨event, member, existing, found, written⟩
    · intro path current candidate selector attempted
      rw [static]
      exact allowed attempted
    · intro id state version attempted
      rw [static, completes.alike.state]
      exact allowed attempted
    · intro datasetId edition document attempted
      rw [state]
      exact allowed attempted
    · intro id document attempted
      rw [state]
      exact allowed attempted
    · intro generator request attempted
      rw [completes.alike.id]
      exact allowed attempted

/-- The sample is published, and its downloads are asked for. -/
theorem amend_runs_cascade_of_persisted_sample :
    let machine : Machine := { generators := .recording [.filterable] }
    let identifiers : VersionIdentifiers := ⟨"cpih01", "time-series", "1"⟩
    let update : Version := { state := some .published }
    let request := machine.amend identifiers update {}
    let events := request.eventsAmong (fun _ site => site) Site.perform Site.sample
    machine.handlers = {} ∧ Site.sample.catalog.WellFiled ∧ Request.Steady events update ∧
      ∃ persisted last, Runs Request.interfered request Site.sample events
          (some (.ok persisted)) last ∧
        ∃ details, identifiers.resolve = .ok details ∧ details.Cascaded persisted events := by
  intro machine identifiers update request events
  have run : Runs Request.interfered request Site.sample events
      (some (request.run Site.perform Site.sample).1) (request.run Site.perform Site.sample).2 :=
    Program.runs_eventsAmong _ _ _ (fun call site => site.answers_perform call)
      (fun _ _ => .inl rfl) _ _
  obtain ⟨persisted, succeeded⟩ : ∃ persisted,
      (request.run Site.perform Site.sample).1 = .ok persisted := by
    have succeeds : (request.run Site.perform Site.sample).1.isOk = true := by decide +kernel
    cases outcome : (request.run Site.perform Site.sample).1 with
    | ok persisted => exact ⟨persisted, rfl⟩
    | error error =>
      rw [outcome] at succeeds
      cases succeeds
  rw [succeeded] at run
  have steady : Request.Steady events update := by
    obtain ⟨only, same⟩ : ∃ only, Request.reads events = [only] :=
      List.length_eq_one_iff.mp (by decide +kernel)
    intro first member second memberToo
    rw [same, List.mem_singleton] at member memberToo
    rw [member, memberToo]
    exact ⟨rfl, rfl, fun _ => rfl⟩
  exact ⟨rfl, Site.wellFiled_sample, steady, persisted, _, run,
    amend_runs_cascade_of_persisted rfl Site.wellFiled_sample run steady⟩

end Machine

/-! ### A version that was moved on meanwhile -/

theorem Call.Accomplishes.attempts {call : Call} {answer : call.Answer} {request : StoreCall}
    {value : request.Value} (accomplishes : call.Accomplishes answer request value) :
    call.attempts? = some (.store request) := by
  cases accomplishes <;> rfl

namespace Request

/-- The methods of the store that the calls have attempted. -/
def methods (events : List (Event Call.Answer Site)) : List StoreMethod :=
  events.filterMap fun event =>
    match event.call.attempts? with
    | some (.store request) => some request.method
    | _ => none

theorem method_mem_methods {events : List (Event Call.Answer Site)} {request : StoreCall}
    {value : request.Value} (accomplished : Accomplished events request value) :
    request.method ∈ methods events := by
  obtain ⟨event, member, accomplishes⟩ := accomplished
  refine List.mem_filterMap.mpr ⟨event, member, ?_⟩
  rw [accomplishes.attempts]

end Request

namespace Site

/-- What others do before a call: somebody publishes the version of a collection that is about to be
replaced. -/
def publishedBefore (call : Call) (site : Site) : Site :=
  match call with
  | .act (.store (.updateVersion _ current _ _)) =>
    if current.state = some .associated then
      (site.store (.updateVersion .generic current { current with state := some .published }
        ETag.any)).2
    else site
  | _ => site

/-- What a call answers when the version of a collection cannot be replaced for a conflict. -/
def performRacing (call : Call) (site : Site) : call.Answer × Site :=
  match call with
  | .act (.store (.updateVersion path current candidate selector)) =>
    if current.state = some .associated then
      (.error (.conflict current.resource selector), site)
    else site.store (.updateVersion path current candidate selector)
  | call => site.perform call

theorem answers_performRacing (call : Call) (site : Site) :
    site.Answers call (site.performRacing call).1 (site.performRacing call).2 := by
  unfold performRacing
  split
  next path current candidate selector =>
    refine .act ?_
    show site.Carries (.store (.updateVersion path current candidate selector))
      (if current.state = some .associated then
        (.error (.conflict current.resource selector), site) else site.store _).1
      (if current.state = some .associated then
        (.error (.conflict current.resource selector), site) else site.store _).2
    by_cases races : current.state = some .associated
    · rw [if_pos races]
      exact .failed _ _
    · rw [if_neg races]
      exact .served (.store (.updateVersion path current candidate selector))
  next => exact site.answers_perform _

theorem publishedBefore_eq_or (call : Call) (site : Site) :
    site.publishedBefore call = site ∨ site.Interferes (site.publishedBefore call) := by
  unfold publishedBefore
  split
  next path current candidate selector =>
    by_cases races : current.state = some .associated
    · rw [if_pos races]
      exact .inr (.store _)
    · rw [if_neg races]
      exact .inl rfl
  next => exact .inl rfl

end Site

/-- The version of the sample is published by somebody else while it is amended by an update that
gives no state, and the first attempt to write it meets a conflict. At the second one the version is
persisted as a published one; but neither the edition nor the dataset is promoted. -/
theorem Machine.amend_may_run_another_cascade :
    let machine : Machine := {}
    let identifiers : VersionIdentifiers := ⟨"cpih01", "time-series", "1"⟩
    let details : VersionDetails := ⟨"cpih01", "time-series", 1⟩
    let request := machine.amend identifiers {} { hasDownloads := true }
    let events := request.eventsAmong Site.publishedBefore Site.performRacing Site.sample
    machine.handlers = {} ∧ Site.sample.catalog.WellFiled ∧ identifiers.resolve = .ok details ∧
      ∃ persisted last, Runs Request.interfered request Site.sample events
          (some (.ok persisted)) last ∧
        persisted.state = some .published ∧ ¬details.Cascaded persisted events := by
  intro machine identifiers details request events
  have run := Program.runs_eventsAmong Request.interfered Site.publishedBefore Site.performRacing
    Site.answers_performRacing Site.publishedBefore_eq_or request Site.sample
  obtain ⟨persisted, succeeded, published⟩ : ∃ persisted,
      (request.run (fun call site => Site.performRacing call (Site.publishedBefore call site))
        Site.sample).1 = .ok persisted ∧ persisted.state = some .published := by
    have succeeds : (request.run
        (fun call site => Site.performRacing call (Site.publishedBefore call site))
        Site.sample).1.toOption.bind (·.state) = some .published := by decide +kernel
    cases outcome : (request.run
        (fun call site => Site.performRacing call (Site.publishedBefore call site))
        Site.sample).1 with
    | ok persisted =>
      rw [outcome] at succeeds
      exact ⟨persisted, rfl, succeeds⟩
    | error error =>
      rw [outcome] at succeeds
      cases succeeds
  rw [succeeded] at run
  refine ⟨rfl, Site.wellFiled_sample, VersionIdentifiers.resolve_sample, persisted, _, run,
    published, fun cascaded => ?_⟩
  obtain ⟨edition, now, document, -, promoted⟩ := cascaded.promotedEdition published
  have unpromoted : StoreMethod.upsertEdition ∉ Request.methods events := by decide +kernel
  exact unpromoted (Request.method_mem_methods promoted)

end ReleaseCatalog
