/-
How often a request waits. It waits for its lock, in a pause before its one retry, and for one
generator: three times at most, whatever its calls are answered. Programs are held to a number of
calls of a kind by a conduct that keeps account of how many are left.
-/

import ReleaseCatalog.Proofs.Program.Conduct

namespace ReleaseCatalog

/-! ### Programs with a number of calls that count -/

namespace Program

variable {Call : Type} {Answer : Call → Type} {α β : Type} {counts : Call → Bool}
  {program : Program Call Answer α} {limit more : Nat}

/-- As many calls of the kind that counts as are left. -/
def allowance (Answer : Call → Type) (counts : Call → Bool) : Conduct Answer Nat where
  fine left call := counts call = true → 0 < left
  after left call _ := if counts call then left - 1 else left

/-- Whatever it is answered, a program makes at most a number of calls of the kind that counts. -/
def MakesAtMost (counts : Call → Bool) (program : Program Call Answer α) (limit : Nat) : Prop :=
  Abides (allowance Answer counts) (fun _ _ => True) program limit

theorem MakesAtMost.mono (within : program.MakesAtMost counts limit) (le : limit ≤ more) :
    program.MakesAtMost counts more := by
  induction program generalizing limit more with
  | done result => trivial
  | step call next inductionHypothesis =>
    refine ⟨fun counted => Nat.lt_of_lt_of_le (within.1 counted) le, fun answer => ?_⟩
    refine inductionHypothesis answer (within.2 answer) ?_
    show (if counts call then limit - 1 else limit) ≤ if counts call then more - 1 else more
    split <;> omega

theorem MakesAtMost.bind {continuation : α → Program Call Answer β}
    (within : program.MakesAtMost counts limit)
    (rest : ∀ result, (continuation result).MakesAtMost counts more) :
    (program.bind continuation).MakesAtMost counts (more + limit) := by
  induction program generalizing limit with
  | done result => exact (rest result).mono (Nat.le_add_right more limit)
  | step call next inductionHypothesis =>
    have enough := within.1
    refine ⟨fun counted => Nat.add_pos_right more (enough counted), fun answer => ?_⟩
    refine (inductionHypothesis answer (within.2 answer)).mono ?_
    show more + (if counts call then limit - 1 else limit) ≤
      if counts call then more + limit - 1 else more + limit
    split
    next counted =>
      have := enough counted
      omega
    next => exact Nat.le_refl _

/-- What follows a program without calls that count may make as many as the whole. -/
theorem MakesAtMost.bind_of_none {continuation : α → Program Call Answer β}
    (quiet : program.MakesAtMost counts 0)
    (rest : ∀ result, (continuation result).MakesAtMost counts limit) :
    (program.bind continuation).MakesAtMost counts limit :=
  quiet.bind rest

theorem makesAtMost_call {request : Call} (enough : counts request = true → 0 < limit) :
    (call request : Program Call Answer _).MakesAtMost counts limit :=
  ⟨enough, fun _ => trivial⟩

end Program

/-! ### Requests that wait -/

/-- Whether an action can take time. -/
def Action.takesTime : Action → Bool
  | generate _ _ | pause => true
  | store _ | now => false

/-- Whether a call can make a request wait: for an action that takes time, or in line for a lock. -/
def Call.mayWait : Call → Bool
  | act action | actBefore _ action => action.takesTime
  | acquire _ _ | hold _ => true
  | instant | release _ _ => false

namespace Steps

variable {α β : Type} {limit : Nat}

/-- Steps that wait at most a number of times. -/
abbrev WaitsAtMost (steps : Steps α) (limit : Nat) : Prop :=
  steps.MakesAtMost Action.takesTime limit

theorem WaitsAtMost.andThen {steps : Steps (Result α)} {next : α → Steps (Result β)} {more : Nat}
    (within : steps.WaitsAtMost limit) (rest : ∀ value, (next value).WaitsAtMost more) :
    (steps.andThen next).WaitsAtMost (more + limit) := by
  refine within.bind fun result => ?_
  cases result with
  | error error => trivial
  | ok value => exact rest value

theorem WaitsAtMost.andThen_of_none {steps : Steps (Result α)} {next : α → Steps (Result β)}
    (quiet : steps.WaitsAtMost 0) (rest : ∀ value, (next value).WaitsAtMost limit) :
    (steps.andThen next).WaitsAtMost limit :=
  quiet.andThen rest

theorem waitsAtMost_require {result : Result α} {next : α → Steps (Result β)}
    (rest : ∀ value, (next value).WaitsAtMost limit) : (require result next).WaitsAtMost limit :=
  WaitsAtMost.andThen_of_none trivial rest

theorem waitsAtMost_store (call : StoreCall) : (store call).WaitsAtMost 0 :=
  Program.makesAtMost_call nofun

theorem waitsAtMost_now : now.WaitsAtMost 0 :=
  Program.makesAtMost_call nofun

end Steps

namespace TransitionContext

variable {context : TransitionContext}

/-- A write waits once, if it has to be tried again. -/
theorem waitsAtMost_persist (path : WritePath) : (context.persist path).WaitsAtMost 1 := by
  have write (current candidate : Version) :
      (context.write path current candidate).WaitsAtMost 0 :=
    (Steps.waitsAtMost_store _).andThen_of_none fun _ => trivial
  have refresh : context.refresh.WaitsAtMost 0 :=
    (Steps.waitsAtMost_store _).andThen_of_none fun _ =>
      Steps.waitsAtMost_require fun () => trivial
  refine (write _ _).bind_of_none fun attempt => ?_
  match attempt with
  | .ok persisted => trivial
  | .error error =>
    by_cases retried : error.isRetryable = true
    · simp only [if_pos retried]
      have pause : Steps.pause.WaitsAtMost 1 := Program.makesAtMost_call fun _ => Nat.one_pos
      exact pause.bind fun () => refresh.andThen_of_none fun pair => write pair.1 pair.2
    · simp only [if_neg retried]
      trivial

theorem waitsAtMost_generateDownloads (type : DatasetType) :
    (context.generateDownloads type).WaitsAtMost 1 :=
  Steps.waitsAtMost_require fun _ => Program.makesAtMost_call fun _ => Nat.one_pos

theorem waitsAtMost_persistByType : context.persistByType.WaitsAtMost 1 :=
  Steps.waitsAtMost_require fun _ => waitsAtMost_persist _

theorem waitsAtMost_promoteEdition (persisted : Version) :
    (context.promoteEdition persisted).WaitsAtMost 0 := by
  refine (Steps.waitsAtMost_store _).andThen_of_none fun edition => ?_
  refine Steps.waitsAtMost_now.bind_of_none fun now => ?_
  match edition.promote now persisted.versionLink with
  | (_, .error error) => trivial
  | (promoted, .ok ()) => exact Steps.waitsAtMost_store _

theorem waitsAtMost_publishInstance (isStatic : Bool) (persisted : Version) :
    (publishInstance isStatic persisted).WaitsAtMost 0 := by
  cases isStatic with
  | true => trivial
  | false => exact Steps.waitsAtMost_store _

theorem waitsAtMost_promoteDataset (persisted : Version) :
    (context.promoteDataset persisted).WaitsAtMost 0 :=
  Steps.waitsAtMost_now.bind_of_none fun _ => Steps.waitsAtMost_store _

/-- Downloads are asked for once, at the end of a cascade. -/
theorem waitsAtMost_askLast (type : DatasetType) (persisted : Version) :
    ((context.generateDownloads type).andThen fun () => .done (.ok persisted)).WaitsAtMost 1 :=
  (waitsAtMost_generateDownloads type).andThen fun () => trivial

theorem waitsAtMost_publish : context.publish.WaitsAtMost 2 := by
  refine Steps.waitsAtMost_require fun () => Steps.waitsAtMost_require fun type => ?_
  refine (waitsAtMost_persist _).andThen fun persisted => ?_
  refine (waitsAtMost_promoteEdition persisted).andThen_of_none fun () => ?_
  refine (waitsAtMost_publishInstance _ persisted).andThen_of_none fun () => ?_
  refine (Steps.waitsAtMost_store _).andThen_of_none fun datasetType => ?_
  refine (waitsAtMost_promoteDataset persisted).andThen_of_none fun () => ?_
  split
  · exact waitsAtMost_askLast datasetType persisted
  · trivial

theorem waitsAtMost_associate : context.associate.WaitsAtMost 2 := by
  refine Steps.waitsAtMost_require fun () => Steps.waitsAtMost_require fun type => ?_
  refine (waitsAtMost_persist _).andThen fun persisted => ?_
  split
  · trivial
  · refine (Steps.waitsAtMost_store _).andThen_of_none fun () => ?_
    split
    · trivial
    · exact waitsAtMost_askLast type persisted

end TransitionContext

theorem Handler.waitsAtMost_steps (context : TransitionContext) (handler : Handler) :
    (handler.steps context).WaitsAtMost 2 := by
  cases handler with
  | draft | terminal =>
    exact TransitionContext.waitsAtMost_persistByType.mono (Nat.le_succ 1)
  | editionConfirmed =>
    exact Steps.waitsAtMost_require fun () =>
      TransitionContext.waitsAtMost_persistByType.mono (Nat.le_succ 1)
  | associated => exact TransitionContext.waitsAtMost_associate
  | published => exact TransitionContext.waitsAtMost_publish

namespace Request

variable {α : Type} {limit : Nat}

/-- A request that waits at most a number of times. -/
abbrev WaitsAtMost (request : Request α) (limit : Nat) : Prop :=
  request.MakesAtMost Call.mayWait limit

theorem waitsAtMost_ofSteps {steps : Steps α} (within : steps.WaitsAtMost limit) :
    (ofSteps steps).WaitsAtMost limit := by
  induction steps generalizing limit with
  | done result => trivial
  | step action next inductionHypothesis =>
    exact ⟨within.1, fun answer => inductionHypothesis answer (within.2 answer)⟩

theorem waitsAtMost_before (expiry : Instant) {steps : Steps α}
    (within : steps.WaitsAtMost limit) : (before expiry steps).WaitsAtMost limit := by
  induction steps generalizing limit with
  | done result => trivial
  | step action next inductionHypothesis =>
    unfold before
    refine ⟨within.1, fun answer => ?_⟩
    cases answer with
    | none => trivial
    | some answer => exact inductionHypothesis answer (within.2 answer)

theorem waitsAtMost_hold (key : String) : (hold key).WaitsAtMost 1 :=
  Program.makesAtMost_call fun _ => Nat.one_pos

end Request

namespace Machine

variable {machine : Machine} {details : VersionDetails} {update : Version} {options : AmendOptions}

theorem waitsAtMost_locked : (machine.locked details update options).WaitsAtMost 2 := by
  refine (Steps.waitsAtMost_store _).andThen_of_none fun dataset => ?_
  refine (Steps.waitsAtMost_store _).andThen_of_none fun () => ?_
  refine (Steps.waitsAtMost_store _).andThen_of_none fun current => ?_
  refine Steps.waitsAtMost_require fun () => ?_
  split
  · trivial
  · exact Handler.waitsAtMost_steps _ _

theorem waitsAtMost_lockedInTime : (machine.lockedInTime details update options).WaitsAtMost 2 := by
  unfold lockedInTime
  cases machine.deadline with
  | none => exact Request.waitsAtMost_ofSteps waitsAtMost_locked
  | some deadline =>
    have clock : (Request.call .instant).WaitsAtMost 0 := Program.makesAtMost_call nofun
    refine clock.bind_of_none fun start => ?_
    refine (Request.waitsAtMost_before _ waitsAtMost_locked).bind fun outcome => ?_
    cases outcome <;> trivial

/-- A request waits for its lock, before its retry and for its downloads. -/
theorem waitsAtMost_amend (identifiers : VersionIdentifiers) :
    (machine.amend identifiers update options).WaitsAtMost 3 := by
  unfold amend
  cases identifiers.resolve with
  | error error => trivial
  | ok details =>
    dsimp only
    split
    · trivial
    · have kind : (lockKind details).WaitsAtMost 0 := by
        refine (Steps.waitsAtMost_store _).bind_of_none fun answer => ?_
        cases answer <;> trivial
      refine (Request.waitsAtMost_ofSteps kind).bind_of_none fun kind => ?_
      have acquire : (Request.call (.acquire kind details.resourceKey)).WaitsAtMost 1 :=
        Program.makesAtMost_call fun _ => Nat.one_pos
      refine acquire.bind fun attempt => ?_
      match attempt with
      | .error error => trivial
      | .ok token =>
        refine waitsAtMost_lockedInTime.bind fun result => ?_
        have release : (Request.call (.release kind token)).WaitsAtMost 0 :=
          Program.makesAtMost_call nofun
        exact release.bind_of_none fun () => trivial

end Machine

end ReleaseCatalog
