/-
From the steps under a lock to the request around them. A request makes the same calls as its steps,
one by one, with or without a time by which each must be over; before them it asks for the lock and
reads the clock, and after them it gives the lock back. So what is known of every run of the steps
is known of every run of the request, when its setting says of the actions what that of the steps
says.
-/

import ReleaseCatalog.Proofs.Program.Runs
import ReleaseCatalog.Workflow.Amend

namespace ReleaseCatalog

namespace Steps

open Program

/-! ### Steps in sequence -/

section Sequence

variable {α β γ : Type}

theorem andThen_done (steps : Steps (Result α)) :
    steps.andThen (fun value => .done (.ok value)) = steps := by
  refine (congrArg (Program.bind steps) ?_).trans (Program.bind_done steps)
  funext result
  cases result <;> rfl

theorem andThen_assoc (first : Steps (Result α)) (second : α → Steps (Result β))
    (third : β → Steps (Result γ)) :
    (first.andThen second).andThen third =
      first.andThen fun value => (second value).andThen third := by
  refine (Program.bind_assoc first _ _).trans (congrArg (Program.bind first) ?_)
  funext result
  cases result <;> rfl

theorem require_andThen (result : Result α) (next : α → Steps (Result β))
    (last : β → Steps (Result γ)) :
    (require result next).andThen last = require result fun value => (next value).andThen last :=
  andThen_assoc (.done result) next last

theorem require_congr {result : Result α} {first second : α → Steps (Result β)}
    (same : ∀ value, result = .ok value → first value = second value) :
    require result first = require result second := by
  cases result with
  | error error => rfl
  | ok value => exact same value rfl

end Sequence

/-! ### Steps that succeed -/

variable {α β : Type} {honest : (action : Action) → action.Answer → Prop} {fine : Action → Prop}
  {holds : α → Prop} {ends : β → Prop}

/-- As long as they are answered honestly the steps make fine calls only, and they succeed only with
values as required. -/
def Assures (honest : (action : Action) → action.Answer → Prop) (fine : Action → Prop)
    (holds : α → Prop) (steps : Steps (Result α)) : Prop :=
  Upholds honest fine (fun result => ∀ value, result = .ok value → holds value) steps

theorem assures_ok {value : α} (held : holds value) :
    Assures honest fine holds (.done (.ok value)) := by
  intro other same
  rw [← Except.ok.inj same]
  exact held

theorem assures_error (error : CatalogError) : Assures honest fine holds (.done (.error error)) :=
  fun _ => nofun

theorem assures_act_bind {action : Action} {next : action.Answer → Steps (Result β)}
    (allowed : fine action) (two : ∀ answer, Assures honest fine ends (next answer)) :
    Assures honest fine ends ((act action).bind next) :=
  ⟨allowed, fun answer _ => two answer⟩

theorem assures_store {call : StoreCall} {holds : call.Value → Prop} (allowed : fine (.store call))
    (honestly : ∀ value, honest (.store call) (.ok value) → holds value) :
    Assures honest fine holds (store call) := by
  refine ⟨allowed, fun answer given value same => ?_⟩
  subst same
  exact honestly value given

theorem assures_andThen {first : Steps (Result α)} {next : α → Steps (Result β)}
    (one : Assures honest fine holds first)
    (two : ∀ value, holds value → Assures honest fine ends (next value)) :
    Assures honest fine ends (first.andThen next) := by
  refine (upholds_bind first _).mpr (Upholds.mono one fun result held => ?_)
  cases result with
  | error error => exact assures_error error
  | ok value => exact two value (held value rfl)

theorem assures_require {result : Result α} {next : α → Steps (Result β)}
    (two : ∀ value, result = .ok value → Assures honest fine ends (next value)) :
    Assures honest fine ends (require result next) := by
  cases result with
  | error error => exact assures_error error
  | ok value => exact two value rfl

/-- Steps that are tried once more assure what both attempts assure. -/
theorem assures_bind {first : Steps (Result α)} {next : Result α → Steps (Result β)}
    (one : Assures honest fine holds first)
    (succeeded : ∀ value, holds value → Assures honest fine ends (next (.ok value)))
    (failed : ∀ error, Assures honest fine ends (next (.error error))) :
    Assures honest fine ends (first.bind next) := by
  refine (upholds_bind first _).mpr (Upholds.mono one fun result held => ?_)
  cases result with
  | ok value => exact succeeded value (held value rfl)
  | error error => exact failed error

/-- Steps that need a value end as required if they do so without it and with it. -/
theorem ensures_require {σ : Type} {setting : Setting Action.Answer σ}
    {post : Option (Result β) → σ → Prop} {state : σ} {result : Result α}
    {next : α → Steps (Result β)} (failed : ∀ error, post (some (.error error)) state)
    (two : ∀ value, result = .ok value → Ensures setting post (next value) state) :
    Ensures setting post (require result next) state := by
  cases result with
  | error error => exact failed error
  | ok value => exact two value rfl

end Steps

namespace Request

open Program

variable {α σ : Type}

/-! ### Following the state -/

/-- A setting for requests in which the actions of steps are carried out, and given up for being
late, as in a setting for steps. -/
structure Relays (inner : Setting Action.Answer σ) (outer : Setting Call.Answer σ) : Prop where
  act {action : Action} {answer : action.Answer} {state after : σ} :
    outer.answers (.act action) state answer after → inner.answers action state answer after
  inTime {expiry : Instant} {action : Action} {answer : action.Answer} {state after : σ} :
    outer.answers (.actBefore expiry action) state (some answer) after →
      inner.answers action state answer after
  late {expiry : Instant} {action : Action} {state after : σ} :
    outer.answers (.actBefore expiry action) state none after → inner.givesUp action state after
  whole (call : Call) (state after : σ) : ¬outer.givesUp call state after

section Relays

variable {inner : Setting Action.Answer σ} {outer : Setting Call.Answer σ}

/-- Steps without a deadline end as they do under a lock. -/
theorem ensures_ofSteps (relays : Relays inner outer) {post : Option α → σ → Prop}
    {steps : Steps α} {state : σ} (ensures : Ensures inner post steps state) :
    Ensures outer post (ofSteps steps) state := by
  induction steps generalizing state with
  | done result => exact ensures
  | step action next inductionHypothesis =>
    refine ⟨ensures.1, fun last given => absurd given (relays.whole _ _ _), ?_⟩
    intro answer after answered
    exact inductionHypothesis answer (ensures.2.2 answer after (relays.act answered))

/-- Steps with a deadline end as they do under a lock; when they missed it, they ended where one of
them was given up. -/
theorem ensures_before (relays : Relays inner outer) {post : Option α → σ → Prop}
    (expiry : Instant) {steps : Steps α} {state : σ} (ensures : Ensures inner post steps state) :
    Ensures outer (fun outcome last => post outcome.join last) (before expiry steps) state := by
  induction steps generalizing state with
  | done result => exact ensures
  | step action next inductionHypothesis =>
    unfold before
    refine ⟨ensures.1, fun last given => absurd given (relays.whole _ _ _), ?_⟩
    intro answer after answered
    cases answer with
    | none => exact ensures.2.1 after (relays.late answered)
    | some answer =>
      exact inductionHypothesis answer (ensures.2.2 answer after (relays.inTime answered))

end Relays

/-! ### Following the answers -/

/-- What is honest of the answers to the calls of a request is honest of the answers to its steps,
and what its steps may do may be called. -/
structure Forwards (honest : (action : Action) → action.Answer → Prop) (fine : Action → Prop)
    (honestCall : (call : Call) → call.Answer → Prop) (fineCall : Call → Prop) : Prop where
  act {action : Action} {answer : action.Answer} :
    honestCall (.act action) answer → honest action answer
  inTime {expiry : Instant} {action : Action} {answer : action.Answer} :
    honestCall (.actBefore expiry action) (some answer) → honest action answer
  call {action : Action} : fine action → fineCall (.act action)
  callBefore {expiry : Instant} {action : Action} :
    fine action → fineCall (.actBefore expiry action)
  clock : fineCall .instant

section Forwards

variable {honest : (action : Action) → action.Answer → Prop} {fine : Action → Prop}
  {honestCall : (call : Call) → call.Answer → Prop} {fineCall : Call → Prop}

theorem upholds_ofSteps (forwards : Forwards honest fine honestCall fineCall) {post : α → Prop}
    {steps : Steps α} (upholds : Upholds honest fine post steps) :
    Upholds honestCall fineCall post (ofSteps steps) := by
  induction steps with
  | done result => exact upholds
  | step action next inductionHypothesis =>
    refine ⟨forwards.call upholds.1, ?_⟩
    intro answer honestly
    exact inductionHypothesis answer (upholds.2 answer (forwards.act honestly))

theorem upholds_before (forwards : Forwards honest fine honestCall fineCall) {post : α → Prop}
    (expiry : Instant) {steps : Steps α} (upholds : Upholds honest fine post steps) :
    Upholds honestCall fineCall (fun outcome => ∀ result, outcome = some result → post result)
      (before expiry steps) := by
  induction steps with
  | done result =>
    intro other same
    cases same
    exact upholds
  | step action next inductionHypothesis =>
    unfold before
    refine ⟨forwards.callBefore upholds.1, ?_⟩
    intro answer honestly
    cases answer with
    | none => exact nofun
    | some answer =>
      exact inductionHypothesis answer (upholds.2 answer (forwards.inTime honestly))

/-- Steps under a deadline succeed only with what they succeed with without one. -/
theorem upholds_lockedInTime (forwards : Forwards honest fine honestCall fineCall)
    {holds : Version → Prop} {machine : Machine} {details : VersionDetails} {update : Version}
    {options : AmendOptions}
    (assures : (machine.locked details update options).Assures honest fine holds) :
    Upholds honestCall fineCall (fun result => ∀ version, result = .ok version → holds version)
      (machine.lockedInTime details update options) := by
  unfold Machine.lockedInTime
  cases machine.deadline with
  | none => exact upholds_ofSteps forwards assures
  | some deadline =>
    refine (upholds_call_bind _ _).mpr ⟨forwards.clock, fun start _ => (upholds_bind _ _).mpr ?_⟩
    refine (upholds_before forwards _ assures).mono fun outcome held => ?_
    cases outcome with
    | none => exact fun _ => nofun
    | some result => exact held result rfl

/-- A request succeeds only with what its steps succeed with, and does around them only what has to
do with the lock. -/
theorem upholds_amendVersion (forwards : Forwards honest fine honestCall fineCall)
    {holds : Version → Prop} {machine : Machine} {details : VersionDetails} {update : Version}
    {options : AmendOptions}
    (looks : fine (.store (.getDatasetType details.datasetId true)))
    (acquires : ∀ kind, fineCall (.acquire kind details.resourceKey))
    (releases : ∀ kind token, fineCall (.release kind token))
    (assures : (machine.locked details update options).Assures honest fine holds) :
    Upholds honestCall fineCall (fun result => ∀ version, result = .ok version → holds version)
      (machine.amendVersion details update options) := by
  have kind : Upholds honest fine (fun _ => True) (Machine.lockKind details) := by
    refine ⟨looks, fun answer _ => ?_⟩
    match answer with
    | .ok type => trivial
    | .error error => trivial
  refine (upholds_bind _ _).mpr ((upholds_ofSteps forwards kind).mono fun kind _ => ?_)
  refine (upholds_call_bind _ _).mpr ⟨acquires kind, fun answer _ => ?_⟩
  match answer with
  | .error error => exact fun _ => nofun
  | .ok token =>
    refine (upholds_bind _ _).mpr ((upholds_lockedInTime forwards assures).mono ?_)
    intro result held
    exact (upholds_call_bind _ _).mpr ⟨releases kind token, fun _ _ => held⟩

end Forwards

end Request

end ReleaseCatalog
