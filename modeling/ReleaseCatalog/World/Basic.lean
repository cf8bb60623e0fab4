/-
The world that requests run in: a store, an arena of locks, two clocks and the records of the
generators. The calendar is what documents are stamped with; it stands still unless it is set. The
running clock is what waiting is measured by; it moves only when nothing can go on, and then to the
next instant at which something can.
-/

import ReleaseCatalog.Lock.Arena
import ReleaseCatalog.Lock.Lease
import ReleaseCatalog.Store.Backend
import ReleaseCatalog.Workflow.Amend

namespace ReleaseCatalog

/-- What the recording generators were asked, and what they are still to fail with, by type. -/
structure Recordings where
  /-- How long a recording generator takes before it records a request. -/
  delay : Duration := ⟨0⟩
  requests : Collection DatasetType (List GenerateRequest) := {}
  failures : Collection DatasetType (List CatalogError) := {}
  deriving Inhabited

namespace Recordings

/-- What the generator for a type was asked, the earliest first. -/
def requested (recordings : Recordings) (type : DatasetType) : List GenerateRequest :=
  (recordings.requests.get? type).getD []

/-- The errors that are queued for a type. -/
def queued (recordings : Recordings) (type : DatasetType) : List CatalogError :=
  (recordings.failures.get? type).getD []

/-- Queues an error for a type, behind those that are queued already. -/
def pushFailure (recordings : Recordings) (type : DatasetType) (error : CatalogError) :
    Recordings :=
  { recordings with
    failures := recordings.failures.put type (recordings.queued type ++ [error]) }

/-- Records a request, which fails with the error at the front of the queue, if there is one. -/
def record (recordings : Recordings) (type : DatasetType) (request : GenerateRequest) :
    Result Unit × Recordings :=
  let recorded := { recordings with
    requests := recordings.requests.put type (recordings.requested type ++ [request]) }
  match recordings.queued type with
  | [] => (.ok (), recorded)
  | error :: rest =>
    (.error error, { recorded with failures := recorded.failures.put type rest })

end Recordings

/-- How far a request has come: it is finished, waits in line for a lock, or waits until an action
that takes time is over. -/
inductive Phase (α : Type) where
  | finished (result : α)
  /-- In line until the expiry. A lock that is taken for a kind becomes the lease of the task. -/
  | inLine (attempt : Arena.Attempt) (expiry : Instant) (kind : Option LockKind)
      (next : Result LockToken → Request α)
  /-- The action is over at the instant `ready`. -/
  | busy (ready : Instant) (action : Action) (next : action.Answer → Request α)
  /-- The action is over at the instant `ready`, or given up at the expiry. -/
  | busyBefore (ready expiry : Instant) (action : Action)
      (next : Option action.Answer → Request α)

/-- A request under way, with the lease that it holds. -/
structure Task (α : Type) where
  phase : Phase α
  lease : Option Lease

/-- The result of a task that is finished. -/
def Task.result? (task : Task α) : Option α :=
  match task.phase with
  | .finished result => some result
  | _ => none

/-- The world that requests run in. -/
structure World where
  backend : Backend := .memory {}
  arena : Arena := {}
  /-- What the calendar shows. -/
  today : Timestamp := .sample
  /-- What the running clock shows. -/
  clock : Instant := 0
  recordings : Recordings := {}
  /-- Requests for locks that wait on their own, by name. -/
  background : List (String × Task (Result LockToken)) := []

namespace World

instance : Inhabited World := ⟨{}⟩

/-- How long a write that lost a race waits before it is tried again. -/
def pauseLength : Duration := ⟨7500000⟩

/-- How long an action takes. Calls on the store take no time. -/
def span (world : World) : Action → Duration
  | .generate (.recording _) _ => world.recordings.delay
  | .pause => pauseLength
  | _ => ⟨0⟩

/-- What an action answers when it is over, and what it has done to the world. -/
def act (world : World) : (action : Action) → action.Answer × World
  | .store call =>
    let (answer, backend) := world.backend.perform world.today call
    (answer, { world with backend := backend })
  | .generate (.recording type) request =>
    let (answer, recordings) := world.recordings.record type request
    (answer, { world with recordings := recordings })
  | .generate (.remote _ endpoint) _ => (.error (Generator.sendFailure endpoint), world)
  | .pause => ((), world)
  | .now => (world.today, world)

/-- Gives a lock back through the store. A failure that is queued for it is used up, but the lock
is given back all the same. -/
def unlock (world : World) (kind : LockKind) (token : LockToken) : World :=
  let (_, backend) := world.backend.announce (.unlock kind)
  let (_, arena) := world.arena.release token
  { world with backend := backend, arena := arena }

end World

end ReleaseCatalog
