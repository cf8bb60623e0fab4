/-
A store behind a probe, beside the same store without one. Between the operations of its user,
failures are queued for its methods and its counters are reset. An operation of a method for which
failures are queued is refused with the first of them and does not reach the store; all others do,
and so does every release, which only uses the failure up. Hence the store behind the probe is at
any time the plain store after the operations that were passed on, locks and tokens included, and
answers as that one does. An operation that a method carries out with the help of another is one
operation of the first.
-/

import Mathlib.Data.List.Induction
import ReleaseCatalog.Proofs.Store.Operations

namespace ReleaseCatalog

namespace Operation

/-- The method that an operation is of. -/
def method : Operation → StoreMethod
  | store call => call.method
  | acquire kind _ => .acquire kind
  | release kind _ => .unlock kind

/-- Whether an operation gives a lock back, which cannot fail. -/
def isRelease : Operation → Bool
  | release _ _ => true
  | _ => false

/-- The answer to an operation that fails. -/
def refuse (error : CatalogError) : (operation : Operation) → operation.Answer
  | store _ => .error error
  | acquire _ _ => .error error
  | release _ _ => ()

/-- The catalog after an operation on it. -/
def keep (now : Timestamp) (catalog : Catalog) : Operation → Catalog
  | store call => (catalog.perform now call).2
  | _ => catalog

theorem perform_memory (now : Timestamp) (catalog : Catalog) (arena : Arena)
    (operation : Operation) :
    (operation.perform now (.memory catalog) arena).2.1 = .memory (operation.keep now catalog) := by
  cases operation <;> rfl

end Operation

namespace Probe

/-! ### Calls behind a probe -/

/-- The probe after an operation that it passes on. -/
def passOn (now : Timestamp) (probe : Probe) (operation : Operation) : Probe :=
  { (probe.record operation.method).2 with inner := operation.keep now probe.inner }

theorem record_of_queued {probe : Probe} {method : StoreMethod} {error : CatalogError}
    {rest : List CatalogError} (queue : probe.queued method = error :: rest) :
    probe.record method = (some error, (probe.record method).2) :=
  Prod.ext (by rw [fst_record, queue]; rfl) rfl

theorem record_of_empty {probe : Probe} {method : StoreMethod} (empty : probe.queued method = []) :
    probe.record method = (none, (probe.record method).2) :=
  Prod.ext (by rw [fst_record, empty]; rfl) rfl

theorem perform_of_queued {probe : Probe} (now : Timestamp) {call : StoreCall}
    {error : CatalogError} {rest : List CatalogError}
    (queue : probe.queued call.method = error :: rest) :
    probe.perform now call = (.error error, (probe.record call.method).2) := by
  unfold perform
  rw [record_of_queued queue]

theorem perform_of_empty {probe : Probe} (now : Timestamp) {call : StoreCall}
    (empty : probe.queued call.method = []) :
    probe.perform now call =
      ((probe.inner.perform now call).1, probe.passOn now (.store call)) := by
  unfold perform
  rw [record_of_empty empty, ← inner_record probe call.method]
  simp only [passOn, Operation.keep, Operation.method, inner_record]

/-- Taking a lock or giving it back does not touch the catalog behind the probe. -/
theorem passOn_of_keep {probe : Probe} {now : Timestamp} {operation : Operation}
    (kept : operation.keep now probe.inner = probe.inner) :
    probe.passOn now operation = (probe.record operation.method).2 := by
  unfold passOn
  rw [kept, ← inner_record probe operation.method]

end Probe

namespace Backend

theorem perform_probed (now : Timestamp) (probe : Probe) (call : StoreCall) :
    (probed probe).perform now call =
      ((probe.perform now call).1, probed (probe.perform now call).2) := rfl

theorem announce_probed (probe : Probe) (method : StoreMethod) :
    (probed probe).announce method =
      ((probe.record method).1, probed (probe.record method).2) := rfl

end Backend

namespace Probing

/-! ### Events -/

/-- What happens to a store behind a probe. -/
inductive Event where
  | visit (now : Timestamp) (operation : Operation)
  /-- A failure is queued for a method. -/
  | failure (method : StoreMethod) (error : CatalogError)
  /-- The counters are set to zero. -/
  | reset

namespace Event

/-- The event is an operation of the method. -/
def isCall (method : StoreMethod) : Event → Bool
  | visit _ operation => operation.method == method
  | _ => false

def isReset : Event → Bool
  | reset => true
  | _ => false

/-- The failure that an event queues for a method. -/
def pushed? (method : StoreMethod) : Event → Option CatalogError
  | failure other error => if other = method then some error else none
  | _ => none

/-- The failures of a method after an event, if those were queued before it. -/
def queueAfter (method : StoreMethod) (queued : List CatalogError) : Event → List CatalogError
  | visit _ operation => if operation.method = method then queued.tail else queued
  | failure other error => if other = method then queued ++ [error] else queued
  | reset => queued

end Event

/-- The failures that are queued for a method after some events. -/
def pending (events : List Event) (method : StoreMethod) : List CatalogError :=
  events.foldl (Event.queueAfter method) []

/-- The calls of a method since the last reset. -/
def calls (events : List Event) (method : StoreMethod) : Nat :=
  (events.reverse.takeWhile fun event => !event.isReset).countP (Event.isCall method)

/-- The failures that events queue for a method, in their order. -/
def pushed (events : List Event) (method : StoreMethod) : List CatalogError :=
  events.filterMap (Event.pushed? method)

/-- What events give, each after those before it. -/
def gather {α : Type} (give : List Event → Event → Option α) (earlier : List Event) :
    List Event → List α
  | [] => []
  | event :: later => (give earlier event).toList ++ gather give (earlier ++ [event]) later

/-- The operation that an event passes on: one for which no failure is queued, or a release. -/
def passed? (earlier : List Event) : Event → Option (Timestamp × Operation)
  | .visit now operation =>
    if pending earlier operation.method = [] ∨ operation.isRelease then some (now, operation)
    else none
  | _ => none

/-- The failure of a method that an event uses up. -/
def spent? (method : StoreMethod) (earlier : List Event) : Event → Option CatalogError
  | .visit _ operation =>
    if operation.method = method then (pending earlier method).head? else none
  | _ => none

/-- The operations that events pass on, in their order. -/
def passed (events : List Event) : List (Timestamp × Operation) :=
  gather passed? [] events

/-- The failures of a method that events use up, in their order. -/
def spent (events : List Event) (method : StoreMethod) : List CatalogError :=
  gather (spent? method) [] events

theorem gather_append_singleton {α : Type} (give : List Event → Event → Option α)
    (earlier events : List Event) (event : Event) :
    gather give earlier (events ++ [event]) =
      gather give earlier events ++ (give (earlier ++ events) event).toList := by
  induction events generalizing earlier with
  | nil => simp [gather]
  | cons first events inductionHypothesis => simp [gather, inductionHypothesis]

variable (events : List Event) (event : Event) (method : StoreMethod)

theorem pending_append_singleton :
    pending (events ++ [event]) method = event.queueAfter method (pending events method) := by
  simp [pending]

theorem passed_append_singleton :
    passed (events ++ [event]) = passed events ++ (passed? events event).toList :=
  gather_append_singleton passed? [] events event

theorem calls_append_singleton :
    calls (events ++ [event]) method =
      if event.isReset then 0
      else calls events method + if event.isCall method then 1 else 0 := by
  unfold calls
  rw [List.reverse_append, List.reverse_singleton, List.singleton_append, List.takeWhile_cons]
  cases event.isReset <;> simp [List.countP_cons]

/-- A failure that an event uses up is the first of those that are queued, and one that it queues
is the last. -/
theorem spent?_append_queueAfter :
    (spent? method events event).toList ++ event.queueAfter method (pending events method) =
      pending events method ++ (event.pushed? method).toList := by
  cases event with
  | visit now operation =>
    by_cases own : operation.method = method
    · cases queue : pending events method <;>
        simp [spent?, Event.queueAfter, Event.pushed?, own, queue]
    · simp [spent?, Event.queueAfter, Event.pushed?, own]
  | failure other error =>
    by_cases own : other = method <;> simp [spent?, Event.queueAfter, Event.pushed?, own]
  | reset => simp [spent?, Event.queueAfter, Event.pushed?]

/-- Failures are used up in the order in which they were queued, and those that are not stay. -/
theorem spent_append_pending :
    spent events method ++ pending events method = pushed events method := by
  induction events using List.reverseRecOn with
  | nil => rfl
  | append_singleton events event inductionHypothesis =>
    have more : spent (events ++ [event]) method =
        spent events method ++ (spent? method events event).toList :=
      gather_append_singleton (spent? method) [] events event
    have pushedMore : pushed (events ++ [event]) method =
        pushed events method ++ (event.pushed? method).toList := by
      unfold pushed
      rw [List.filterMap_append]
      cases own : event.pushed? method <;> simp [own]
    rw [more, pushedMore, pending_append_singleton, List.append_assoc, spent?_append_queueAfter,
      ← List.append_assoc, inductionHypothesis]

/-- What is queued for a method depends on nothing but its own calls and failures. -/
theorem pending_filter :
    pending (events.filter fun event =>
        event.isCall method || (event.pushed? method).isSome) method = pending events method := by
  unfold pending
  rw [List.foldl_filter]
  congr 1
  funext queued event
  cases event with
  | visit now operation =>
    by_cases own : operation.method = method <;> simp [Event.isCall, Event.pushed?,
      Event.queueAfter, own]
  | failure other error =>
    by_cases own : other = method <;> simp [Event.isCall, Event.pushed?, Event.queueAfter, own]
  | reset => rfl

end Probing

namespace World

/-! ### Operations behind a probe -/

variable {world : World} {probe : Probe} {operation : Operation}

/-- An operation that a probe refuses does nothing but use a failure up. -/
theorem operate_of_refused (probed : world.backend = .probed probe) {error : CatalogError}
    {rest : List CatalogError} (queue : probe.queued operation.method = error :: rest)
    (fallible : operation.isRelease = false) :
    world.operate operation =
      (some (operation.refuse error),
        { world with backend := .probed (probe.record operation.method).2 }) := by
  cases operation with
  | store call =>
    refine (run_store world call).trans ?_
    rw [probed, Backend.perform_probed, Probe.perform_of_queued world.today queue]
    rfl
  | acquire kind key =>
    have failing : probe.queued (.acquire kind) = error :: rest := queue
    refine run_acquire_of_error ?_ key
    rw [probed, Backend.announce_probed, Probe.record_of_queued failing]
    rfl
  | release kind token => cases fallible

/-- An operation that a probe passes on does what it does without the probe. -/
theorem operate_of_passed (alone : world.background = []) (probed : world.backend = .probed probe)
    (passes : probe.queued operation.method = [] ∨ operation.isRelease = true) :
    ∃ clock, world.operate operation =
      (some (operation.perform world.today (.memory probe.inner) world.arena).1,
        { world with
          backend := .probed (probe.passOn world.today operation)
          arena := (operation.perform world.today (.memory probe.inner) world.arena).2.2
          clock := clock }) := by
  cases operation with
  | store call =>
    have empty : probe.queued call.method = [] := passes.resolve_right Bool.false_ne_true
    refine ⟨world.clock, (run_store world call).trans ?_⟩
    rw [probed, Backend.perform_probed, Probe.perform_of_empty world.today empty]
    rfl
  | acquire kind key =>
    have empty : probe.queued (.acquire kind) = [] := passes.resolve_right Bool.false_ne_true
    rw [Probe.passOn_of_keep rfl]
    refine run_acquire alone ?_ key
    rw [probed, Backend.announce_probed, Probe.record_of_empty empty]
    rfl
  | release kind token =>
    rw [Probe.passOn_of_keep rfl]
    refine ⟨world.clock, (run_release world kind token).trans ?_⟩
    unfold unlock
    rw [probed]
    rfl

/-- Changes the probe in front of the store, if there is one. -/
def onProbe (world : World) (change : Probe → Probe) : World :=
  match world.backend with
  | .probed probe => { world with backend := .probed (change probe) }
  | _ => world

/-- The world after an event. -/
def undergo (world : World) : Probing.Event → World
  | .visit now operation => ({ world with today := now }.operate operation).2
  | .failure method error => world.onProbe fun probe => probe.pushFailure method error
  | .reset => world.onProbe Probe.resetCalls

/-- The world after events. -/
def undergoAll (world : World) (events : List Probing.Event) : World :=
  events.foldl undergo world

theorem onProbe_of_probed (probed : world.backend = .probed probe) (change : Probe → Probe) :
    world.onProbe change = { world with backend := .probed (change probe) } := by
  unfold onProbe
  rw [probed]

theorem operateAll_append (world : World) (visits more : List (Timestamp × Operation)) :
    (world.operateAll (visits ++ more)).2 = ((world.operateAll visits).2.operateAll more).2 := by
  induction visits generalizing world with
  | nil => rfl
  | cons visit visits inductionHypothesis => exact inductionHypothesis _

end World

namespace Probing

variable {events : List Event} {world plain : World} {probe : Probe}

/-! ### The plain store -/

/-- A world with a store behind a probe, after events, and one with the plain store after the
operations that were passed on. -/
structure Tracks (events : List Event) (world plain : World) (probe : Probe) : Prop where
  alone : world.background = []
  plainAlone : plain.background = []
  probed : world.backend = .probed probe
  inMemory : plain.backend = .memory probe.inner
  arena : world.arena = plain.arena
  queued (method : StoreMethod) : probe.queued method = pending events method
  counted (method : StoreMethod) : probe.count method = calls events method

theorem queued_record (probe : Probe) (now : Timestamp) (operation : Operation)
    (method : StoreMethod) :
    (probe.record operation.method).2.queued method =
      Event.queueAfter method (probe.queued method) (.visit now operation) := by
  rw [Event.queueAfter]
  by_cases own : operation.method = method
  · rw [if_pos own, ← own, Probe.queued_record_self]
  · rw [if_neg own, Probe.queued_record_other _ (Ne.symm own)]

theorem count_record (probe : Probe) (now : Timestamp) (operation : Operation)
    (method : StoreMethod) :
    (probe.record operation.method).2.count method =
      probe.count method + if Event.isCall method (.visit now operation) then 1 else 0 := by
  unfold Event.isCall
  by_cases own : operation.method = method
  · rw [if_pos (beq_iff_eq.mpr own), ← own, Probe.count_record_self]
  · rw [if_neg (mt beq_iff_eq.mp own), Probe.count_record_other _ (Ne.symm own)]
    rfl

/-- What was recorded of an operation is what is known of it. -/
theorem Tracks.recorded (tracks : Tracks events world plain probe) (now : Timestamp)
    (operation : Operation) (method : StoreMethod) :
    (probe.record operation.method).2.queued method =
        pending (events ++ [.visit now operation]) method ∧
      (probe.record operation.method).2.count method =
        calls (events ++ [.visit now operation]) method := by
  rw [queued_record probe now, count_record probe now, tracks.queued, tracks.counted,
    pending_append_singleton, calls_append_singleton]
  exact ⟨rfl, rfl⟩

/-- An operation that is refused does not reach the store. -/
theorem Tracks.refused (tracks : Tracks events world plain probe) (now : Timestamp)
    {operation : Operation} {error : CatalogError} {rest : List CatalogError}
    (queue : pending events operation.method = error :: rest)
    (fallible : operation.isRelease = false) :
    ({ world with today := now }.operate operation).1 = some (operation.refuse error) ∧
      Tracks (events ++ [.visit now operation]) ({ world with today := now }.operate operation).2
        plain (probe.record operation.method).2 := by
  have ran := @World.operate_of_refused { world with today := now } probe operation tracks.probed
    error rest ((tracks.queued _).trans queue) fallible
  rw [ran]
  exact ⟨rfl, {
    alone := tracks.alone
    plainAlone := tracks.plainAlone
    probed := rfl
    inMemory := by rw [Probe.inner_record]; exact tracks.inMemory
    arena := tracks.arena
    queued := fun method => (tracks.recorded now operation method).1
    counted := fun method => (tracks.recorded now operation method).2 }⟩

/-- An operation that is passed on is answered by the plain store. -/
theorem Tracks.passed (tracks : Tracks events world plain probe) (now : Timestamp)
    {operation : Operation}
    (passes : pending events operation.method = [] ∨ operation.isRelease = true) :
    (∃ answer, ({ world with today := now }.operate operation).1 = some answer ∧
        ({ plain with today := now }.operate operation).1 = some answer) ∧
      Tracks (events ++ [.visit now operation]) ({ world with today := now }.operate operation).2
        ({ plain with today := now }.operate operation).2 (probe.passOn now operation) := by
  have silent : plain.backend.IsSilent := tracks.inMemory ▸ Backend.isSilent_memory probe.inner
  obtain ⟨clock, ran⟩ := @World.operate_of_passed { world with today := now } probe operation
    tracks.alone tracks.probed (passes.imp_left (tracks.queued _).trans)
  obtain ⟨otherClock, plainRan⟩ := @World.operate_eq { plain with today := now } tracks.plainAlone
    silent operation
  rw [ran, plainRan]
  dsimp only
  rw [tracks.inMemory, ← tracks.arena]
  exact ⟨⟨_, rfl, rfl⟩, {
    alone := tracks.alone
    plainAlone := tracks.plainAlone
    probed := rfl
    inMemory := Operation.perform_memory now probe.inner world.arena operation
    arena := rfl
    queued := fun method => (tracks.recorded now operation method).1
    counted := fun method => (tracks.recorded now operation method).2 }⟩

theorem Tracks.failure (tracks : Tracks events world plain probe) (method : StoreMethod)
    (error : CatalogError) :
    Tracks (events ++ [.failure method error]) (world.undergo (.failure method error)) plain
      (probe.pushFailure method error) := by
  show Tracks _ (world.onProbe _) _ _
  rw [World.onProbe_of_probed tracks.probed]
  exact {
    alone := tracks.alone
    plainAlone := tracks.plainAlone
    probed := rfl
    inMemory := tracks.inMemory
    arena := tracks.arena
    queued := fun other => by
      rw [pending_append_singleton, Event.queueAfter, ← tracks.queued]
      by_cases own : method = other
      · rw [if_pos own, ← own, Probe.queued_pushFailure_self]
      · rw [if_neg own, Probe.queued_pushFailure_other _ (Ne.symm own)]
    counted := fun other => by
      rw [calls_append_singleton]
      exact tracks.counted other }

theorem Tracks.reset (tracks : Tracks events world plain probe) :
    Tracks (events ++ [.reset]) (world.undergo .reset) plain probe.resetCalls := by
  show Tracks _ (world.onProbe _) _ _
  rw [World.onProbe_of_probed tracks.probed]
  exact {
    alone := tracks.alone
    plainAlone := tracks.plainAlone
    probed := rfl
    inMemory := tracks.inMemory
    arena := tracks.arena
    queued := fun method => by
      rw [pending_append_singleton]
      exact tracks.queued method
    counted := fun method => by
      rw [calls_append_singleton]
      rfl }

/-- Whatever happens, the plain store takes part in it with what is passed on. -/
theorem Tracks.undergo (tracks : Tracks events world plain probe) (event : Event) :
    ∃ later, Tracks (events ++ [event]) (world.undergo event)
      (plain.operateAll (passed? events event).toList).2 later := by
  cases event with
  | visit now operation =>
    by_cases passes : pending events operation.method = [] ∨ operation.isRelease = true
    · rw [passed?, if_pos passes]
      exact ⟨_, (tracks.passed now passes).2⟩
    · rw [passed?, if_neg passes]
      obtain ⟨queue, fallible⟩ := not_or.mp passes
      obtain ⟨error, rest, queue⟩ := List.exists_cons_of_ne_nil queue
      exact ⟨_, (tracks.refused now queue (Bool.of_not_eq_true fallible)).2⟩
  | failure method error => exact ⟨_, tracks.failure method error⟩
  | reset => exact ⟨_, tracks.reset⟩

theorem tracks_fresh (patience : Duration) :
    Tracks [] (World.fresh patience (.probed {})) (World.fresh patience (.memory {})) {} where
  alone := rfl
  plainAlone := rfl
  probed := rfl
  inMemory := rfl
  arena := rfl
  queued := fun _ => rfl
  counted := fun _ => rfl

theorem exists_tracks (patience : Duration) (events : List Event) :
    ∃ probe, Tracks events ((World.fresh patience (.probed {})).undergoAll events)
      ((World.fresh patience (.memory {})).operateAll (Probing.passed events)).2 probe := by
  induction events using List.reverseRecOn with
  | nil => exact ⟨_, tracks_fresh patience⟩
  | append_singleton events event inductionHypothesis =>
    obtain ⟨probe, tracks⟩ := inductionHypothesis
    rw [World.undergoAll, List.foldl_append, passed_append_singleton, World.operateAll_append]
    exact tracks.undergo event

end Probing

namespace World

open Probing

/-- A store behind a probe is the plain store with holes. After any operations, failures and resets
it is the plain store after the operations that were passed on, and the next operation is answered
as that one answers it, unless a failure is queued for its method: then the answer is the first of
them and nothing reaches the store, except that a release is carried out all the same. The failures
of a method are used up by its own calls in the order in which they were queued, and its calls are
counted from the last reset, whether they failed or not. -/
theorem probed_store_has_holes (patience : Duration) (events : List Event) :
    let world := (fresh patience (.probed {})).undergoAll events
    let plain := ((fresh patience (.memory {})).operateAll (passed events)).2
    ∃ probe, world.backend = .probed probe ∧ plain.backend = .memory probe.inner ∧
      world.arena = plain.arena ∧
      (∀ method, probe.count method = calls events method ∧
        probe.queued method = pending events method ∧
        spent events method ++ pending events method = pushed events method ∧
        pending (events.filter fun event =>
          event.isCall method || (event.pushed? method).isSome) method = pending events method) ∧
      ∀ now operation,
        let answered := { world with today := now }.operate operation
        let plainly := { plain with today := now }.operate operation
        (pending events operation.method = [] →
          ∃ answer, answered.1 = some answer ∧ plainly.1 = some answer) ∧
        ∀ error rest, pending events operation.method = error :: rest →
          answered.1 = some (operation.refuse error) ∧
            ∃ later, answered.2.backend = .probed later ∧
              (operation.isRelease = false →
                later.inner = probe.inner ∧ answered.2.arena = world.arena) ∧
              (operation.isRelease = true →
                .memory later.inner = plainly.2.backend ∧ answered.2.arena = plainly.2.arena) := by
  intro world plain
  obtain ⟨probe, tracks⟩ : ∃ probe, Tracks events world plain probe := exists_tracks patience events
  -- How the two worlds came about does not matter any more.
  clear_value world plain
  refine ⟨probe, tracks.probed, tracks.inMemory, tracks.arena,
    fun method => ⟨tracks.counted method, tracks.queued method, spent_append_pending events method,
      pending_filter events method⟩,
    fun now operation => ⟨fun empty => ?_, fun error rest queue => ?_⟩⟩
  · exact (tracks.passed now (.inl empty)).1
  · cases fallible : operation.isRelease with
    | false =>
      obtain ⟨refused, later⟩ := tracks.refused now queue fallible
      refine ⟨refused, _, later.probed, fun _ => ⟨Probe.inner_record probe _, ?_⟩, nofun⟩
      exact later.arena.trans tracks.arena.symm
    | true =>
      obtain ⟨⟨answer, answered, -⟩, later⟩ := tracks.passed now (.inr fallible)
      refine ⟨?_, _, later.probed, nofun, fun _ => ⟨later.inMemory.symm, later.arena⟩⟩
      cases operation with
      | release kind token => exact answered
      | store | acquire => cases fallible

/-- While a lock is held, failures are queued for two methods: one of them refuses, the other gives
the lock back, and a third knows nothing of them. -/
theorem probed_store_has_holes_sample :
    let events : List Event :=
      [.visit .sample (.acquire .instances "instance-1"), .failure .getDataset .database,
        .failure .unlockInstance .database]
    let world := (fresh ⟨1⟩ (.probed {})).undergoAll events
    let plain := ((fresh ⟨1⟩ (.memory {})).operateAll (passed events)).2
    (∃ answer, ({ world with today := .sample }.operate
          (.store (.getInstance "instance-1"))).1 = some answer ∧
        ({ plain with today := .sample }.operate
          (.store (.getInstance "instance-1"))).1 = some answer) ∧
      ({ world with today := .sample }.operate (.store (.getDataset "cpih01"))).1 =
        some (.error .database) ∧
      ({ world with today := .sample }.operate (.release .instances 0)).2.arena =
        ({ plain with today := .sample }.operate (.release .instances 0)).2.arena ∧
      plain.arena.isLocked "instance-1" = true := by
  intro events world plain
  obtain ⟨probe, -, -, -, -, answers⟩ := probed_store_has_holes ⟨1⟩ events
  refine ⟨(answers .sample (.store (.getInstance "instance-1"))).1 rfl,
    ((answers .sample (.store (.getDataset "cpih01"))).2 .database [] rfl).1, ?_, by decide +kernel⟩
  obtain ⟨-, later, -, -, released⟩ :=
    (answers .sample (.release .instances 0)).2 .database [] rfl
  exact (released rfl).2

end World

end ReleaseCatalog
