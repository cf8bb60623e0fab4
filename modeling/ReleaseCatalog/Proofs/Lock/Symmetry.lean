/-
Lock symmetry. A request of a workflow asks for one lock at most. What it was given it gives back
once, as the kind of lock that it asked for, and nothing else; whatever its steps met under the
lock, whatever its deadline did to them, and whatever others did to the catalog meanwhile.

The handler of the target state can be any program, and may ask for locks of its own; its calls come
between the two of the request. Handlers that leave the locks alone, as the built-in ones do, add
nothing to these.

A request that came to its end is taken apart where the workflow puts it together: the lookup of the
kind, the attempt at the lock, the steps and the handler under it, and the return of the token.
-/

import ReleaseCatalog.Proofs.Concurrency.Disturbance
import ReleaseCatalog.Proofs.Workflow.Custom

namespace ReleaseCatalog

open Program (Event Runs Upholds)
open Relation (ReflTransGen)

/-! ### What a request does about locks -/

/-- Something that a request did about locks. -/
inductive LockDeed where
  /-- It asked the store for a lock. -/
  | asked (kind : LockKind) (key : String) (answer : Result LockToken)
  /-- It asked for a lock without passing through the store. -/
  | held (key : String) (answer : Result LockToken)
  | gaveBack (kind : LockKind) (token : LockToken)

namespace LockDeed

/-- What a call with its answer was about locks. -/
def of? : (call : Call) → call.Answer → Option LockDeed
  | .acquire kind key, answer => some (asked kind key answer)
  | .hold key, answer => some (held key answer)
  | .release kind token, () => some (gaveBack kind token)
  | .act _, _ | .actBefore _ _, _ | .instant, _ => none

end LockDeed

/-! ### The lock that is given back -/

/-- A token that was given back is not held. -/
theorem Site.held_unlock (site : Site) (token : LockToken) :
    (site.unlock token).arena.held.get? token = none := by
  unfold Site.unlock Arena.release
  cases held : site.arena.held.get? token with
  | none => exact held
  | some holding =>
    show (Arena.prune _ _).held.get? token = none
    rw [Arena.held_prune]
    exact Collection.get?_erase_self site.arena.held token

/-- A token that others never register stays out of the register while they go on. -/
theorem held_eq_none_of_others {outside : Site → Site → Prop} {token : LockToken}
    (apart : ∀ site after, outside site after → site.arena.held.get? token = none →
      after.arena.held.get? token = none)
    {site last : Site} (others : ReflTransGen outside site last)
    (free : site.arena.held.get? token = none) : last.arena.held.get? token = none := by
  induction others with
  | refl => exact free
  | tail _ changed inductionHypothesis => exact apart _ _ changed inductionHypothesis

/-! ### Workflows at a site -/

/-- The site that a call may leave when it is given up midway: nothing was done, some writes of an
action have been made, the line of a lock was left, or a token was struck and its gate passed on
without being closed. -/
inductive Site.Abandons (site : Site) : Call → Site → Prop
  | unmade (call : Call) : Abandons site call site
  | act {action : Action} {after : Site} :
    GivesUp action site after → Abandons site (.act action) after
  | actBefore (expiry : Instant) {action : Action} {after : Site} :
    GivesUp action site after → Abandons site (.actBefore expiry action) after
  | acquire (kind : LockKind) (key : String) :
    Abandons site (.acquire kind key)
      (site.withArena ((site.arena.request key).2.withdraw (site.arena.request key).1))
  | hold (key : String) :
    Abandons site (.hold key)
      (site.withArena ((site.arena.request key).2.withdraw (site.arena.request key).1))
  | release (kind : LockKind) {token : LockToken} {holding : Holding} :
    site.arena.held.get? token = some holding →
      Abandons site (.release kind token)
        (site.withArena ((site.arena.strike token).passOn holding.gate))

/-- What a call of a workflow may answer on a disturbed site, and the site that it may leave. -/
inductive Site.Replies (site : Site) : (call : WorkflowCall) → call.Answer → Site → Prop
  | own {call : Call} {answer : call.Answer} {after : Site} :
    site.Answers call answer after → Replies site (.own call) answer after
  | handler {call : Call} {answer : call.Answer} {after : Site} :
    site.Answers call answer after → Replies site (.handler call) answer after
  | inTime (expiry : Instant) {call : Call} {answer : call.Answer} {after : Site} :
    site.Answers call answer after → Replies site (.handlerBefore expiry call) (some answer) after
  | late (expiry : Instant) {call : Call} {after : Site} :
    site.Abandons call after → Replies site (.handlerBefore expiry call) none after

/-- Workflows on a disturbed site, with others there who can do given things. -/
def Workflow.disturbedBy (outside : Site → Site → Prop) :
    Program.Setting WorkflowCall.Answer Site where
  answers call site answer after := site.Replies call answer after
  outside := outside

namespace WorkflowCall

/-- Whether the call takes a lock or gives one back. -/
def isForLock : WorkflowCall → Bool
  | own call => call.isForLock
  | handler call => call.isForLock
  | handlerBefore _ call => call.isForLock

/-- Whether the workflow takes a lock itself or gives one back. -/
def isOwnForLock : WorkflowCall → Bool
  | own call => call.isForLock
  | handler _ => false
  | handlerBefore _ _ => false

end WorkflowCall

/-- Something that a workflow did about locks itself, or a call for a lock of its handler. -/
inductive WorkflowDeed where
  | own (deed : LockDeed)
  | handler (call : Call)

namespace WorkflowDeed

/-- What a call with its answer was about locks, and whose it was. -/
def of? : (call : WorkflowCall) → call.Answer → Option WorkflowDeed
  | .own call, answer => (LockDeed.of? call answer).map own
  | .handler call, _ => if call.isForLock then some (handler call) else none
  | .handlerBefore _ call, _ => if call.isForLock then some (handler call) else none

/-- What a workflow and its handler did about locks, one thing after another. -/
def deeds (events : List (Event WorkflowCall.Answer Site)) : List WorkflowDeed :=
  events.filterMap fun event => of? event.call event.answer

theorem deeds_append (earlier later : List (Event WorkflowCall.Answer Site)) :
    deeds (earlier ++ later) = deeds earlier ++ deeds later :=
  List.filterMap_append

theorem deeds_eq_nil {events : List (Event WorkflowCall.Answer Site)}
    (plain : ∀ event ∈ events, event.call.isForLock = false) : deeds events = [] := by
  refine List.filterMap_eq_nil_iff.mpr fun event member => ?_
  obtain ⟨call, answer, before, after⟩ := event
  have unlocked : call.isForLock = false := plain _ member
  cases call with
  | own call =>
    cases call with
    | act | actBefore | instant => rfl
    | acquire | hold | release => cases unlocked
  | handler call => exact if_neg (Bool.eq_false_iff.mp unlocked)
  | handlerBefore expiry call => exact if_neg (Bool.eq_false_iff.mp unlocked)

/-- Where the workflow does nothing about locks itself, only the handler can have done something. -/
theorem deeds_eq_map_handler {events : List (Event WorkflowCall.Answer Site)}
    (plain : ∀ event ∈ events, event.call.isOwnForLock = false) :
    ∃ handled : List Call, deeds events = handled.map handler := by
  induction events with
  | nil => exact ⟨[], rfl⟩
  | cons event rest inductionHypothesis =>
    obtain ⟨unlocked, later⟩ := List.forall_mem_cons.mp plain
    obtain ⟨handled, same⟩ := inductionHypothesis later
    have first : (∃ call, of? event.call event.answer = some (handler call)) ∨
        of? event.call event.answer = none := by
      obtain ⟨call, answer, before, after⟩ := event
      cases call with
      | own call =>
        cases call with
        | act | actBefore | instant => exact .inr rfl
        | acquire | hold | release => cases unlocked
      | handler call | handlerBefore expiry call =>
        cases forLock : call.isForLock with
        | true => exact .inl ⟨call, if_pos forLock⟩
        | false => exact .inr (if_neg (Bool.eq_false_iff.mp forLock))
    rcases first with ⟨call, told⟩ | nothing
    · refine ⟨call :: handled, ?_⟩
      simp only [deeds, List.filterMap_cons, told]
      exact congrArg _ same
    · refine ⟨handled, ?_⟩
      simp only [deeds, List.filterMap_cons, nothing]
      exact same

end WorkflowDeed

/-! ### Calls under the lock -/

namespace WorkflowRequest

variable {α : Type} {fine : Call → Prop} {wide : WorkflowCall → Prop}

/-- Calls of the handler that have an expiry are as fine as they are without one. -/
theorem upholds_handleBefore (expiry : Instant) {request : Request α}
    (upholds : Upholds (fun _ _ => True) fine (fun _ => True) request)
    (implies : ∀ call, fine call → wide (.handlerBefore expiry call)) :
    Upholds (fun _ _ => True) wide (fun _ => True) (handleBefore expiry request) := by
  induction request with
  | done result => trivial
  | step call next inductionHypothesis =>
    unfold handleBefore
    refine ⟨implies call upholds.1, fun answer _ => ?_⟩
    cases answer with
    | none => trivial
    | some answer => exact inductionHypothesis answer (upholds.2 answer trivial)

end WorkflowRequest

/-- The handlers make no calls for locks. -/
def StateHandlers.LeaveLocks (handlers : StateHandlers) : Prop :=
  ∀ target context, (handlers.handler target context).Unlocked

/-- Built-in handlers make none. -/
theorem HandlerRegistry.leaveLocks (registry : HandlerRegistry) :
    registry.toStateHandlers.LeaveLocks := fun target context =>
  Request.unlocked_ofSteps ((registry.handler target).steps context)

/-- Of registered handlers only those count. -/
theorem StateHandlers.LeaveLocks.register {handlers : StateHandlers} {handler : StateHandler}
    (leave : handlers.LeaveLocks) (state : State) (unlocked : ∀ context, (handler context).Unlocked) :
    (handlers.register state handler).LeaveLocks := by
  intro target context
  show Request.Unlocked ((if target = state then handler else handlers.handler target) context)
  split
  · exact unlocked context
  · exact leave target context

namespace Workflow

open WorkflowRequest

variable {workflow : Workflow} {identifiers : VersionIdentifiers} {details : VersionDetails}
  {update : Version} {options : AmendOptions}

/-- Under the lock come calls of the workflow that have nothing to do with locks, and the calls of
one of its handlers. -/
theorem upholds_lockedInTime {fine : Call → Prop} {wide : WorkflowCall → Prop}
    (handled : ∀ target context, Upholds (fun _ _ => True) fine (fun _ => True)
      (workflow.handlers.handler target context))
    (own : ∀ call, call.isForLock = false → wide (.own call))
    (handler : ∀ call, fine call → wide (.handler call))
    (before : ∀ expiry call, fine call → wide (.handlerBefore expiry call)) :
    Upholds (fun _ _ => True) wide (fun _ => True)
      (workflow.lockedInTime details update options) := by
  unfold lockedInTime
  cases workflow.deadline with
  | none =>
    refine (Program.upholds_bind _ _).mpr ?_
    refine ((Request.unlocked_ofSteps _).relabel own).mono fun prepared _ => ?_
    match prepared with
    | .error error => trivial
    | .ok (target, context) => exact (handled target context).relabel handler
  | some deadline =>
    refine (Program.upholds_call_bind _ _).mpr ⟨own .instant rfl, fun start _ => ?_⟩
    refine (Program.upholds_bind _ _).mpr ((Program.upholds_bind _ _).mpr ?_)
    refine ((Request.unlocked_before _ _).relabel own).mono fun prepared _ => ?_
    match prepared with
    | none => trivial
    | some (.error error) => trivial
    | some (.ok (target, context)) =>
      refine (upholds_handleBefore _ (handled target context) (before _)).mono fun outcome _ => ?_
      cases outcome <;> trivial

variable {outside : Site → Site → Prop} {site last : Site}
  {events : List (Event WorkflowCall.Answer Site)}

open WorkflowDeed (deeds deeds_append)

/-- What a workflow does itself without calls for locks is not told. -/
theorem deeds_own {α : Type} {request : Request α} {outcome : Option α} (unlocked : request.Unlocked)
    (run : Runs (disturbedBy outside) (own request) site events outcome last) :
    deeds events = [] := by
  have quiet : Upholds (fun _ _ => True) (fun call => call.isForLock = false) (fun _ => True)
      (own request) := unlocked.relabel fun _ plain => plain
  exact WorkflowDeed.deeds_eq_nil (run.upholds quiet fun _ _ => trivial).1

/-- Under the lock only the handler can do something about locks; then the token is given back, and
after that only others can have put it into the register again. -/
theorem deeds_underLock {kind : LockKind} {token : LockToken} {result : Result Version}
    (run : Runs (disturbedBy outside)
      ((workflow.lockedInTime details update options).bind fun result =>
        (own (Request.call (.release kind token))).bind fun () => .done result) site
      events (some result) last) :
    ∃ handled, deeds events = handled.map .handler ++ [.own (.gaveBack kind token)] ∧
      (workflow.handlers.LeaveLocks → handled = []) ∧
      ((∀ site after, outside site after → site.arena.held.get? token = none →
          after.arena.held.get? token = none) →
        last.arena.held.get? token = none) := by
  obtain ⟨value, middle, steps, returned, under, back, rfl⟩ := run.of_bind
  obtain ⟨answer, gone, released, rest, release, ends, rfl⟩ := back.of_bind
  obtain ⟨before, after, -, answered, others, rfl⟩ := Runs.of_call release
  obtain ⟨rfl, -, still⟩ := ends.of_done
  have apart : Upholds (fun _ _ => True) (fun call => call.isOwnForLock = false) (fun _ => True)
      (workflow.lockedInTime details update options) :=
    upholds_lockedInTime (fun _ _ => Program.upholds_trivial _) (fun _ plain => plain)
      (fun _ _ => rfl) fun _ _ _ => rfl
  obtain ⟨handled, told⟩ :=
    WorkflowDeed.deeds_eq_map_handler (under.upholds apart fun _ _ => trivial).1
  refine ⟨handled, ?_, fun leave => ?_, fun theirs => ?_⟩
  · rw [deeds_append, told]
    rfl
  · have quiet : Upholds (fun _ _ => True) (fun call => call.isForLock = false) (fun _ => True)
        (workflow.lockedInTime details update options) :=
      upholds_lockedInTime leave (fun _ plain => plain) (fun _ plain => plain) fun _ _ plain => plain
    have nothing := WorkflowDeed.deeds_eq_nil (under.upholds quiet fun _ _ => trivial).1
    exact List.map_eq_nil_iff.mp (told.symm.trans nothing)
  · have free : after.arena.held.get? token = none := by
      cases answered with
      | own answered =>
        cases answered with
        | released => exact before.held_unlock token
    exact held_eq_none_of_others theirs (others.trans still) free

/-- A request that knows its version asks for one lock, and gives back what it was given. -/
theorem deeds_amendVersion {result : Result Version}
    (run : Runs (disturbedBy outside) (workflow.amendVersion details update options) site
      events (some result) last) :
    ∃ kind, (∃ error, deeds events = [.own (.asked kind details.resourceKey (.error error))]) ∨
      ∃ token handled, deeds events = .own (.asked kind details.resourceKey (.ok token)) ::
          handled.map .handler ++ [.own (.gaveBack kind token)] ∧
        (workflow.handlers.LeaveLocks → handled = []) ∧
        ((∀ site after, outside site after → site.arena.held.get? token = none →
            after.arena.held.get? token = none) →
          last.arena.held.get? token = none) := by
  obtain ⟨kind, looked, lookup, rest, look, asks, rfl⟩ := run.of_bind
  obtain ⟨attempt, there, asking, rest, ask, enters, rfl⟩ := asks.of_bind
  obtain ⟨before, after, -, answered, -, rfl⟩ := Runs.of_call ask
  refine ⟨kind, ?_⟩
  rw [deeds_append, deeds_own (Request.unlocked_ofSteps _) look]
  match attempt with
  | .error error =>
    obtain ⟨rfl, -, -⟩ := enters.of_done
    exact .inl ⟨error, rfl⟩
  | .ok token =>
    obtain ⟨handled, back, leave, free⟩ := deeds_underLock enters
    refine .inr ⟨token, handled, ?_, leave, free⟩
    rw [deeds_append, back]
    rfl

/-- What a call of a workflow answers on a site that serves, and the site after it. -/
def serve (call : WorkflowCall) (site : Site) : call.Answer × Site :=
  match call with
  | .own call => site.perform call
  | .handler call => site.perform call
  | .handlerBefore _ call => (some (site.perform call).1, (site.perform call).2)

theorem replies_serve (call : WorkflowCall) (site : Site) :
    site.Replies call (serve call site).1 (serve call site).2 := by
  cases call with
  | own call => exact .own (site.answers_perform call)
  | handler call => exact .handler (site.answers_perform call)
  | handlerBefore expiry call => exact .inTime expiry (site.answers_perform call)

/-- A handler that takes the lock of the dataset, and keeps it, before it publishes. -/
def keeping : StateHandler := fun context =>
  (Request.acquire .instances context.details.datasetId).bind fun _ =>
    Handler.published.toStateHandler context

/-- What is said of the calls of the request is not so of all calls that are made until it returns:
a handler can ask for another lock while the request has its own, and that lock is held afterwards
if the handler has not given it back. -/
theorem handlers_can_keep_locks :
    let workflow : Workflow := { handlers := ({} : StateHandlers).register .published keeping }
    let request := workflow.amend ⟨"cpih01", "time-series", "1"⟩ { state := some .published } {}
    ∃ events result last,
      Runs (disturbedBy fun _ _ => False) request Site.sample events (some result) last ∧
      (deeds events).length = 3 ∧ last.arena.isLocked "cpih01" = true := by
  intro workflow request
  have run := Program.runs_eventsAmong (disturbedBy fun _ _ => False) (fun _ site => site) serve
    replies_serve (fun _ _ => .inl rfl) request Site.sample
  exact ⟨_, _, _, run, by decide +kernel, by decide +kernel⟩

end Workflow

end ReleaseCatalog
