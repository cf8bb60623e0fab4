/-
How far a request has come among others for the same version. Before it has the lock it looks for
the kind of the lock, asks for it, and waits; it may be turned away. With the lock it is undecided
as long as it only reads. Once it has written the version or failed it is decided: it goes on for
the parents, gives the lock back and returns.
-/

import ReleaseCatalog.Proofs.Concurrency.Commitment
import ReleaseCatalog.Proofs.Concurrency.System

namespace ReleaseCatalog

variable {ι : Type}

/-! ### Requests for one version -/

/-- A request to amend a version. -/
structure Amendment where
  machine : Machine
  identifiers : VersionIdentifiers
  update : Version
  options : AmendOptions

namespace Amendment

/-- The request as a whole. -/
def request (amendment : Amendment) : Request (Result Version) :=
  amendment.machine.amend amendment.identifiers amendment.update amendment.options

/-- The request is not rejected at once, but goes on to the version. -/
def IsFor (amendment : Amendment) (details : VersionDetails) : Prop :=
  amendment.request =
    amendment.machine.amendVersion details amendment.update amendment.options

/-- What an amendment needs to find under the lock to write the version. -/
abbrev Passes (amendment : Amendment) (details : VersionDetails) (catalog : Catalog)
    (stored : Version) : Prop :=
  amendment.machine.Passes details amendment.update amendment.options catalog stored

/-- What is left of a request whose steps under the lock have begun. -/
def inside (kind : LockKind) (token : LockToken) (steps : Steps (Result Version)) :
    Request (Result Version) :=
  (Request.ofSteps steps).bind fun result =>
    (Request.call (.release kind token)).bind fun () => .done result

/-- How a request goes on when its attempt at the lock is over. -/
def enter (amendment : Amendment) (details : VersionDetails) (kind : LockKind) :
    Result LockToken → Request (Result Version)
  | .error error => .done (.error error)
  | .ok token =>
    inside kind token (amendment.machine.locked details amendment.update amendment.options)

/-- What is left of a request that knows which lock to ask for. -/
def asking (amendment : Amendment) (details : VersionDetails) (kind : LockKind) :
    Request (Result Version) :=
  .step (.acquire kind details.resourceKey) (amendment.enter details kind)

/-- The kind of lock that a request asks for after it has looked for the type of the dataset. -/
def kindFor : Result DatasetType → LockKind
  | .ok type => LockKind.forType type
  | .error _ => .instances

/-- A request from its first call on. -/
def looking (amendment : Amendment) (details : VersionDetails) : Request (Result Version) :=
  .step (.act (.store (.getDatasetType details.datasetId true))) fun type : Result DatasetType =>
    amendment.asking details (kindFor type)

variable {amendment : Amendment} {details : VersionDetails}

/-- A request is rejected at once, or it begins with its first call. -/
theorem request_eq (named : amendment.identifiers.resolve = .ok details)
    (unhurried : amendment.machine.deadline = none) :
    (∃ error, amendment.request = .done (.error error)) ∨
      (amendment.IsFor details ∧ amendment.request = amendment.looking details) := by
  unfold IsFor request Machine.amend
  rw [named]
  by_cases unknown : amendment.update.type ≠ "" ∧
      DatasetType.resolve? amendment.update.type = none
  · simp only [if_pos unknown]
    exact .inl ⟨_, rfl⟩
  · simp only [if_neg unknown]
    refine .inr ⟨trivial, ?_⟩
    have unlimited : amendment.machine.lockedInTime details amendment.update amendment.options =
        Request.ofSteps
          (amendment.machine.locked details amendment.update amendment.options) := by
      unfold Machine.lockedInTime
      rw [unhurried]
    unfold Machine.amendVersion
    rw [unlimited]
    refine congrArg (Program.step (Call.act (.store (.getDatasetType details.datasetId true)))) ?_
    funext type
    -- Both kinds of lock are asked for in the same way.
    cases type <;>
      refine congrArg (Program.step (Call.acquire _ details.resourceKey)) ?_ <;>
      funext attempt <;>
      cases attempt <;> rfl

end Amendment

/-! ### Where a request stands -/

/-- Whether a request has obtained the lock, and whether it has written the version or failed. -/
inductive Stage where
  | before
  | undecided
  | decided
  deriving DecidableEq, Repr

/-- The stage of a caller, given who has obtained the lock and who is scheduled. -/
def Stage.of [DecidableEq ι] (obtained scheduled : List ι) (caller : ι) : Stage :=
  if caller ∈ scheduled then .decided else if caller ∈ obtained then .undecided else .before

namespace Stage

variable [DecidableEq ι] {obtained scheduled : List ι} {caller other : ι}

theorem of_eq_before_iff :
    of obtained scheduled caller = .before ↔ caller ∉ scheduled ∧ caller ∉ obtained := by
  by_cases isScheduled : caller ∈ scheduled <;> by_cases hasObtained : caller ∈ obtained <;>
    simp [of, isScheduled, hasObtained]

theorem of_eq_undecided_iff :
    of obtained scheduled caller = .undecided ↔ caller ∉ scheduled ∧ caller ∈ obtained := by
  by_cases isScheduled : caller ∈ scheduled <;> by_cases hasObtained : caller ∈ obtained <;>
    simp [of, isScheduled, hasObtained]

theorem of_eq_decided_iff : of obtained scheduled caller = .decided ↔ caller ∈ scheduled := by
  by_cases isScheduled : caller ∈ scheduled <;> by_cases hasObtained : caller ∈ obtained <;>
    simp [of, isScheduled, hasObtained]

theorem of_obtained_other (differ : other ≠ caller) :
    of (obtained ++ [caller]) scheduled other = of obtained scheduled other := by
  simp [of, differ]

theorem of_scheduled_other (differ : other ≠ caller) :
    of obtained (scheduled ++ [caller]) other = of obtained scheduled other := by
  simp [of, differ]

end Stage

/-- Steps that have decided: they have failed, or go on for the parents, which are there. -/
def Steps.Decided (details : VersionDetails) (steps : Steps (Result Version))
    (catalog : Catalog) : Prop :=
  (∃ error, steps = .done (.error error)) ∨ (steps.ForParents ∧ catalog.HasParents details)

namespace Amendment

/-- How far an amendment can have come at each stage, when the tokens that are its own are present
as told. -/
inductive Stands (amendment : Amendment) (details : VersionDetails)
    (own : LockToken → Presence → Prop) (catalog : Catalog) :
    Stage → Progress (Result Version) → Prop
  | rejected (error : CatalogError) :
    Stands amendment details own catalog .before (.ready (.done (.error error)))
  | looking : amendment.IsFor details →
    Stands amendment details own catalog .before
      (.ready (.step (.act (.store (.getDatasetType details.datasetId true)))
        fun type : Result DatasetType => amendment.asking details (kindFor type)))
  | asking (kind : LockKind) : amendment.IsFor details →
    Stands amendment details own catalog .before
      (.ready (.step (.acquire kind details.resourceKey) (amendment.enter details kind)))
  | visiting (kind : LockKind) {gate : GateId} {token : LockToken} : amendment.IsFor details →
    own token ⟨.visiting, details.resourceKey, gate⟩ →
    Stands amendment details own catalog .before
      (.visiting ⟨details.resourceKey, gate, token⟩ (amendment.enter details kind))
  | waiting (kind : LockKind) {gate : GateId} {token : LockToken} : amendment.IsFor details →
    own token ⟨.waiting, details.resourceKey, gate⟩ →
    Stands amendment details own catalog .before
      (.waiting ⟨details.resourceKey, gate, token⟩ (amendment.enter details kind))
  | undecided (kind : LockKind) {gate : GateId} {token : LockToken} {call : StoreCall}
      {next : call.Answer → Steps (Result Version)} : amendment.IsFor details →
    own token ⟨.holding, details.resourceKey, gate⟩ →
    amendment.machine.Undecided details amendment.update amendment.options
      (.step (.store call) next) catalog →
    Stands amendment details own catalog .undecided
      (.ready (.step (.act (.store call)) fun answer : call.Answer =>
        inside kind token (next answer)))
  | decided (kind : LockKind) {gate : GateId} {token : LockToken} {action : Action}
      {next : action.Answer → Steps (Result Version)} :
    own token ⟨.holding, details.resourceKey, gate⟩ →
    Steps.ForParents (.step action next) → catalog.HasParents details →
    Stands amendment details own catalog .decided
      (.ready (.step (.act action) fun answer : action.Answer => inside kind token (next answer)))
  | releasing (kind : LockKind) {gate : GateId} {token : LockToken} (result : Result Version) :
    own token ⟨.holding, details.resourceKey, gate⟩ →
    Stands amendment details own catalog .decided
      (.ready (.step (.release kind token) fun _ : Unit => .done result))
  | struck {gate : GateId} {token : LockToken} (result : Result Version) :
    own token ⟨.struck, details.resourceKey, gate⟩ →
    Stands amendment details own catalog .decided
      (.struck ⟨details.resourceKey, gate, token⟩ fun _ : Unit => .done result)
  | passing (result : Result Version) :
    Stands amendment details own catalog .decided
      (.passing details.resourceKey fun _ : Unit => .done result)
  | returned (result : Result Version) :
    Stands amendment details own catalog .decided (.ready (.done result))

variable {amendment : Amendment} {details : VersionDetails} {catalog later : Catalog}
  {own ownLater : LockToken → Presence → Prop}

theorem stands_request (named : amendment.identifiers.resolve = .ok details)
    (unhurried : amendment.machine.deadline = none) :
    amendment.Stands details own catalog .before (.ready amendment.request) := by
  rcases amendment.request_eq named unhurried with ⟨error, rejected⟩ | ⟨isFor, looks⟩
  · rw [rejected]
    exact .rejected error
  · rw [looks]
    exact .looking isFor

theorem stands_of_undecided {kind : LockKind} {gate : GateId} {token : LockToken}
    {steps : Steps (Result Version)} (isFor : amendment.IsFor details)
    (holds : own token ⟨.holding, details.resourceKey, gate⟩)
    (undecided : amendment.machine.Undecided details amendment.update amendment.options
      steps catalog) :
    amendment.Stands details own catalog .undecided (.ready (inside kind token steps)) := by
  cases steps with
  | done => exact undecided.elim
  | step action next =>
    cases action with
    | store call => exact .undecided kind isFor holds undecided
    | generate | pause | now => exact undecided.elim

theorem stands_of_decided {kind : LockKind} {gate : GateId} {token : LockToken}
    {steps : Steps (Result Version)} (holds : own token ⟨.holding, details.resourceKey, gate⟩)
    (decided : steps.Decided details catalog) :
    amendment.Stands details own catalog .decided (.ready (inside kind token steps)) := by
  rcases decided with ⟨error, rfl⟩ | ⟨forParents, parents⟩
  · exact .releasing kind (.error error) holds
  · cases steps with
    | done result => exact .releasing kind result holds
    | step action next => exact .decided kind holds forParents parents

/-- Where a request stands is not changed by others who keep what it goes by, and leave its tokens
alone. -/
theorem Stands.of_keeps {stage : Stage} {progress : Progress (Result Version)}
    (stands : amendment.Stands details own catalog stage progress)
    (keeps : stage = .undecided → catalog.Keeps details later)
    (parentsKept : catalog.HasParents details → later.HasParents details)
    (owned : ∀ token presence, own token presence → ownLater token presence) :
    amendment.Stands details ownLater later stage progress := by
  cases stands with
  | rejected error => exact .rejected error
  | looking isFor => exact .looking isFor
  | asking kind isFor => exact .asking kind isFor
  | visiting kind isFor visits => exact .visiting kind isFor (owned _ _ visits)
  | waiting kind isFor waits => exact .waiting kind isFor (owned _ _ waits)
  | undecided kind isFor holds undecided =>
    exact .undecided kind isFor (owned _ _ holds) (undecided.of_keeps (keeps rfl))
  | decided kind holds forParents parents =>
    exact .decided kind (owned _ _ holds) forParents (parentsKept parents)
  | releasing kind result holds => exact .releasing kind result (owned _ _ holds)
  | struck result stays => exact .struck result (owned _ _ stays)
  | passing result => exact .passing result
  | returned result => exact .returned result

end Amendment

end ReleaseCatalog
