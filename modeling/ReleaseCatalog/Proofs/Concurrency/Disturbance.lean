/-
Many requests at a disturbed site. A call may fail or be given up midway, deadlines may expire, and
a request may be turned away from the lock. This file says what can happen to such a system, and how
far a request for a version can have come in it: before it has the lock it has not put anything into
the slot of the version; with the lock it has the slot in custody; and afterwards it is done with
the slot.
-/

import ReleaseCatalog.Proofs.Concurrency.Stages
import ReleaseCatalog.Proofs.Workflow.Custody

namespace ReleaseCatalog

variable {ι : Type}

/-! ### Disturbed systems -/

namespace System

variable [DecidableEq ι] {α : Type}

/-- What can happen next at a disturbed site: what happens at any, and that a request is refused the
lock without having come to the gate. -/
inductive DisturbedStep : System ι α → List (Happening ι) → System ι α → Prop
  | step {system last : System ι α} {happenings : List (Happening ι)} :
    Step Site.Answers system happenings last → DisturbedStep system happenings last
  | notAcquired {system : System ι α} {caller : ι} {kind : LockKind} {key : String}
      {next : Result LockToken → Request α} (error : CatalogError) :
    system.progress caller = .ready (.step (.acquire kind key) next) →
      DisturbedStep system [] (system.after caller system.site (.ready (next (.error error))))

/-- Whatever happens to a system at a disturbed site, one step after another. -/
inductive DisturbedRuns (start : System ι α) : List (Happening ι) → System ι α → Prop
  | begun : DisturbedRuns start [] start
  | step {trace happenings : List (Happening ι)} {middle last : System ι α} :
    DisturbedRuns start trace middle → DisturbedStep middle happenings last →
      DisturbedRuns start (trace ++ happenings) last

/-- A run in which nobody is refused is one of them. -/
theorem Runs.disturbed {start last : System ι α} {trace : List (Happening ι)}
    (run : Runs Site.Answers start trace last) : DisturbedRuns start trace last := by
  induction run with
  | begun => exact .begun
  | step _ step inductionHypothesis => exact inductionHypothesis.step (.step step)

end System

/-- Who has put a version into the slot, one after another. -/
def Happening.writers (slot : VersionKey) (trace : List (Happening ι)) : List ι :=
  (trace.filterMap (writer? slot)).map Prod.fst

theorem Happening.writers_append (slot : VersionKey) (trace more : List (Happening ι)) :
    writers slot (trace ++ more) = writers slot trace ++ writers slot more := by
  unfold writers
  rw [List.filterMap_append, List.map_append]

theorem Happening.writers_called (slot : VersionKey) (caller : ι) (site : Site)
    (writes : List Write) :
    writers slot [called caller site writes] =
      if Write.documentsAt slot writes = [] then [] else [caller] := by
  unfold writers
  rw [List.filterMap_cons, writer?]
  by_cases nothing : Write.documentsAt slot writes = []
  · rw [if_pos nothing, if_pos nothing]
    rfl
  · rw [if_neg nothing, if_neg nothing]
    rfl

/-- Calls that have nothing to do with locks leave the arena alone. -/
theorem Site.Answers.arena {site after : Site} {call : Call} {answer : call.Answer}
    (answered : site.Answers call answer after) (plain : call.isForLock = false) :
    after.arena = site.arena := by
  have carried {action : Action} {answer : action.Answer}
      (carried : site.Carries action answer after) : after.arena = site.arena := by
    cases carried with
    | failed | generated => rfl
    | served => cases action <;> rfl
  cases answered with
  | act done => exact carried done
  | inTime _ done => exact carried done
  | late _ given =>
    obtain ⟨writes, -, rfl⟩ := given
    rfl
  | instant => rfl
  | acquired | notAcquired | held | notHeld | released => cases plain

namespace System

variable [DecidableEq ι] {α : Type} {system start last : System ι α}
  {trace happenings : List (Happening ι)}

/-- One thing at most happens at a step, and at the site as it is. -/
theorem DisturbedStep.happenings_cases (step : DisturbedStep system happenings last) :
    (happenings = [] ∨ ∃ caller, happenings = [.obtained caller]) ∨
      (∃ caller writes, happenings = [.called caller system.site writes]) ∨
      ∃ call, happenings = [.outside call system.site] := by
  cases step with
  | notAcquired => exact .inl (.inl rfl)
  | step step =>
    cases step with
    | enter | enterToHold | lineUp | giveUp | strike | refused | passOn | prune =>
      exact .inl (.inl rfl)
    | register => exact .inl (.inr ⟨_, rfl⟩)
    | call => exact .inr (.inl ⟨_, _, rfl⟩)
    | outside call => exact .inr (.inr ⟨call, rfl⟩)

/-- The catalog has the writes of all that happens. -/
theorem DisturbedStep.catalog (step : DisturbedStep system happenings last) :
    last.site.catalog = system.site.catalog.writeAll (happenings.flatMap Happening.writes) := by
  cases step with
  | notAcquired => rfl
  | step step =>
    cases step with
    | enter | enterToHold | lineUp | register | giveUp | strike | refused | passOn | prune => rfl
    | call _ _ answered recorded =>
      obtain ⟨planned, -, made, journal⟩ := answered.made
      cases List.append_cancel_left (recorded.symm.trans journal)
      rw [List.flatMap_singleton]
      exact made
    | outside call =>
      rw [List.flatMap_singleton]
      exact Catalog.perform_eq_writeAll _ _ _

theorem DisturbedRuns.catalog (run : DisturbedRuns start trace last) :
    last.site.catalog = start.site.catalog.writeAll (trace.flatMap Happening.writes) := by
  induction run with
  | begun => rfl
  | step _ step inductionHypothesis =>
    rw [step.catalog, inductionHypothesis, List.flatMap_append, Catalog.writeAll_append]

end System

/-! ### Where a request stands -/

/-- A request that does nothing about locks. -/
def Request.Unlocked {α : Type} (request : Request α) : Prop :=
  Program.Upholds (fun _ _ => True) (fun call => call.isForLock = false) (fun _ => True) request

/-- Steps do nothing about locks. -/
theorem Request.unlocked_ofSteps {α : Type} (steps : Steps α) :
    (Request.ofSteps steps).Unlocked :=
  (Program.upholds_trivial steps).relabel fun _ _ => rfl

theorem Request.unlocked_before {α : Type} (expiry : Instant) (steps : Steps α) :
    (Request.before expiry steps).Unlocked := by
  induction steps with
  | done result => trivial
  | step action next inductionHypothesis =>
    unfold before
    refine ⟨rfl, fun answer _ => ?_⟩
    cases answer with
    | none => trivial
    | some answer => exact inductionHypothesis answer

/-- The steps under the lock do nothing about locks, with a deadline or without one. -/
theorem Machine.unlocked_lockedInTime (machine : Machine) (details : VersionDetails)
    (update : Version) (options : AmendOptions) :
    (machine.lockedInTime details update options).Unlocked := by
  unfold lockedInTime
  cases machine.deadline with
  | none => exact Request.unlocked_ofSteps _
  | some deadline =>
    refine (Program.upholds_call_bind _ _).mpr ⟨rfl, fun start _ => ?_⟩
    refine (Program.upholds_bind _ _).mpr ((Request.unlocked_before _ _).mono fun outcome _ => ?_)
    cases outcome <;> trivial

namespace Amendment

/-- What a request does when its steps under the lock are over. -/
def giveBack (kind : LockKind) (token : LockToken) (result : Result Version) :
    Request (Result Version) :=
  (Request.call (.release kind token)).bind fun () => .done result

/-- How a request goes on when its attempt at the lock is over, under its deadline if it has one. -/
def underLock (amendment : Amendment) (details : VersionDetails) (kind : LockKind) :
    Result LockToken → Request (Result Version)
  | .error error => .done (.error error)
  | .ok token =>
    (amendment.machine.lockedInTime details amendment.update amendment.options).bind
      (giveBack kind token)

variable {amendment : Amendment} {details : VersionDetails}

/-- A request is rejected at once, or it looks for the kind of the lock and asks for it. -/
theorem request_cases
    (named : ∀ other, amendment.identifiers.resolve = .ok other → other = details) :
    (∃ error, amendment.request = .done (.error error)) ∨
      amendment.request = .step (.act (.store (.getDatasetType details.datasetId true)))
        fun type : Result DatasetType => .step (.acquire (kindFor type) details.resourceKey)
          (amendment.underLock details (kindFor type)) := by
  unfold request Machine.amend
  cases resolved : amendment.identifiers.resolve with
  | error error => exact .inl ⟨error, rfl⟩
  | ok other =>
    rw [named other resolved]
    by_cases unknown : amendment.update.type ≠ "" ∧
        DatasetType.resolve? amendment.update.type = none
    · simp only [if_pos unknown]
      exact .inl ⟨_, rfl⟩
    · simp only [if_neg unknown]
      right
      refine congrArg (Program.step (Call.act (.store (.getDatasetType details.datasetId true)))) ?_
      funext type
      cases type <;>
        refine congrArg (Program.step (Call.acquire _ details.resourceKey)) ?_ <;>
        funext attempt <;>
        cases attempt <;> rfl

/-- What a request may have written when it has come to an outcome or is still under way. -/
abbrev Conforms (amendment : Amendment) (details : VersionDetails)
    (outcome : Option (Result Version)) (entries : List Entry) : Prop :=
  amendment.machine.Conforms details amendment.update outcome entries

/-- How far an amendment can have come, given what stands in the slot, what the amendment has
written, and which tokens are its own. Under the lock it has the slot in custody. -/
inductive Rests (amendment : Amendment) (details : VersionDetails)
    (own : LockToken → Presence → Prop) (content : Option Version) (entries : List Entry) :
    Progress (Result Version) → Prop
  | looking : entries = [] →
    Rests amendment details own content entries
      (.ready (.step (.act (.store (.getDatasetType details.datasetId true)))
        fun type : Result DatasetType => .step (.acquire (kindFor type) details.resourceKey)
          (amendment.underLock details (kindFor type))))
  | asking (kind : LockKind) : entries = [] →
    Rests amendment details own content entries
      (.ready (.step (.acquire kind details.resourceKey) (amendment.underLock details kind)))
  | visiting (kind : LockKind) {gate : GateId} {token : LockToken} : entries = [] →
    own token ⟨.visiting, details.resourceKey, gate⟩ →
    Rests amendment details own content entries
      (.visiting ⟨details.resourceKey, gate, token⟩ (amendment.underLock details kind))
  | waiting (kind : LockKind) {gate : GateId} {token : LockToken} : entries = [] →
    own token ⟨.waiting, details.resourceKey, gate⟩ →
    Rests amendment details own content entries
      (.waiting ⟨details.resourceKey, gate, token⟩ (amendment.underLock details kind))
  | working (kind : LockKind) {gate : GateId} {token : LockToken} {found : Option Version}
      {call : Call} {next : call.Answer → Request (Result Version)} :
    own token ⟨.holding, details.resourceKey, gate⟩ →
    content = Write.contentAfter found (Entry.documents details.slot entries) →
    Request.Unlocked (.step call next) →
    Program.Ensures (Request.disturbed.inCustody details.slot found) (amendment.Conforms details)
      (.step call next) entries →
    Rests amendment details own content entries
      (.ready (.step call fun answer => (next answer).bind (giveBack kind token)))
  | releasing (kind : LockKind) {gate : GateId} {token : LockToken} (result : Result Version) :
    own token ⟨.holding, details.resourceKey, gate⟩ →
    amendment.Conforms details (some result) entries →
    Rests amendment details own content entries
      (.ready (.step (.release kind token) fun _ : Unit => .done result))
  | struck {gate : GateId} {token : LockToken} (result : Result Version) :
    own token ⟨.struck, details.resourceKey, gate⟩ →
    amendment.Conforms details (some result) entries →
    Rests amendment details own content entries
      (.struck ⟨details.resourceKey, gate, token⟩ fun _ : Unit => .done result)
  | passing (result : Result Version) :
    amendment.Conforms details (some result) entries →
    Rests amendment details own content entries
      (.passing details.resourceKey fun _ : Unit => .done result)
  | returned (result : Result Version) :
    amendment.Conforms details (some result) entries →
    Rests amendment details own content entries (.ready (.done result))

variable {own ownLater : LockToken → Presence → Prop} {content later : Option Version}
  {entries : List Entry}

/-- A request that fails without having written anything conforms. -/
theorem conforms_error (error : CatalogError) : amendment.Conforms details (some (.error error)) [] :=
  ⟨Machine.orderly_nil, fun _ => nofun⟩

theorem rests_request
    (named : ∀ other, amendment.identifiers.resolve = .ok other → other = details) :
    amendment.Rests details own content [] (.ready amendment.request) := by
  rcases request_cases named with ⟨error, rejected⟩ | looks
  · rw [rejected]
    exact .returned _ (conforms_error error)
  · rw [looks]
    exact .looking rfl

theorem rests_of_inCustody {kind : LockKind} {gate : GateId} {token : LockToken}
    {found : Option Version} {rest : Request (Result Version)}
    (holds : own token ⟨.holding, details.resourceKey, gate⟩)
    (shown : content = Write.contentAfter found (Entry.documents details.slot entries))
    (unlocked : rest.Unlocked)
    (ensures : Program.Ensures (Request.disturbed.inCustody details.slot found)
      (amendment.Conforms details) rest entries) :
    amendment.Rests details own content entries (.ready (rest.bind (giveBack kind token))) := by
  cases rest with
  | done result => exact .releasing kind result holds ensures
  | step call next => exact .working kind holds shown unlocked ensures

/-- Where a request stands is not changed by others who leave its tokens alone, and the slot while
it has the lock. -/
theorem Rests.of_others {progress : Progress (Result Version)}
    (rests : amendment.Rests details own content entries progress)
    (owned : ∀ token presence, own token presence → ownLater token presence)
    (kept : ∀ token gate, own token ⟨.holding, details.resourceKey, gate⟩ → later = content) :
    amendment.Rests details ownLater later entries progress := by
  cases rests with
  | looking fresh => exact .looking fresh
  | asking kind fresh => exact .asking kind fresh
  | visiting kind fresh visits => exact .visiting kind fresh (owned _ _ visits)
  | waiting kind fresh waits => exact .waiting kind fresh (owned _ _ waits)
  | working kind holds shown unlocked ensures =>
    exact .working kind (owned _ _ holds) ((kept _ _ holds).trans shown) unlocked ensures
  | releasing kind result holds conforms => exact .releasing kind result (owned _ _ holds) conforms
  | struck result stays conforms => exact .struck result (owned _ _ stays) conforms
  | passing result conforms => exact .passing result conforms
  | returned result conforms => exact .returned result conforms

/-- Wherever a request stands, it has written all in its turn. -/
theorem Rests.orderly {progress : Progress (Result Version)}
    (rests : amendment.Rests details own content entries progress) :
    amendment.machine.Orderly details amendment.update entries := by
  cases rests with
  | looking fresh | asking _ fresh | visiting _ fresh | waiting _ fresh =>
    rw [fresh]
    exact Machine.orderly_nil
  | working _ _ _ _ ensures => exact (ensures.mono fun _ _ => Machine.Conforms.orderly).here
  | releasing _ _ _ conforms | struck _ _ conforms | passing _ conforms | returned _ conforms =>
    exact conforms.orderly

/-- A request that has returned a version has put one into its slot. -/
theorem Rests.written {version : Version}
    (rests : amendment.Rests details own content entries (.ready (.done (.ok version)))) :
    Entry.documents details.slot entries ≠ [] := by
  cases rests with
  | returned _ conforms =>
    obtain ⟨document, put, -⟩ := conforms.written version rfl
    rw [put]
    exact List.cons_ne_nil _ _

end Amendment

end ReleaseCatalog
