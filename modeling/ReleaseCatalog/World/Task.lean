/-
How a task runs. It is carried forward until it is finished or has to wait; what it waited for
carries it forward again; and it can be dropped while it waits, which takes it out of line and
gives its lock back.
-/

import ReleaseCatalog.World.Basic

namespace ReleaseCatalog

namespace World

/-- The outcome of coming to the line of a key: the lock at once, an error at once when there is
no patience to wait, or a place in line. -/
inductive Arrival where
  | through (token : LockToken)
  | refused (error : CatalogError)
  | inLine (attempt : Arena.Attempt) (expiry : Instant)

/-- Comes to the line of a key. -/
def lineUp (world : World) (key : String) : Arrival × World :=
  let (attempt, arena) := world.arena.request key
  if arena.isThrough attempt then
    (.through attempt.token, { world with arena := arena.claim attempt })
  else if arena.patience.nanoseconds = 0 then
    (.refused (arena.timedOut key), { world with arena := arena.withdraw attempt })
  else (.inLine attempt (Instant.after world.clock arena.patience), { world with arena := arena })

/-- Carries a request forward until it is finished or has to wait. -/
def advance (world : World) (lease : Option Lease) : Request α → Task α × World
  | .done result => (⟨.finished result, lease⟩, world)
  | .step (.act action) next =>
    if world.span action = ⟨0⟩ then
      let (answer, after) := world.act action
      after.advance lease (next answer)
    else (⟨.busy (Instant.after world.clock (world.span action)) action next, lease⟩, world)
  | .step (.actBefore expiry action) next =>
    if world.span action = ⟨0⟩ then
      let (answer, after) := world.act action
      after.advance lease (next (some answer))
    else if expiry ≤ world.clock then world.advance lease (next none)
    else
      (⟨.busyBefore (Instant.after world.clock (world.span action)) expiry action next, lease⟩,
        world)
  | .step .instant next => world.advance lease (next world.clock)
  | .step (.acquire kind key) next =>
    match world.backend.announce (.acquire kind) with
    | (some error, backend) => { world with backend := backend }.advance lease (next (.error error))
    | (none, backend) =>
      match { world with backend := backend }.lineUp key with
      | (.through token, after) => after.advance (some ⟨kind, token⟩) (next (.ok token))
      | (.refused error, after) => after.advance lease (next (.error error))
      | (.inLine attempt expiry, after) => (⟨.inLine attempt expiry (some kind) next, lease⟩, after)
  | .step (.hold key) next =>
    match world.lineUp key with
    | (.through token, after) => after.advance lease (next (.ok token))
    | (.refused error, after) => after.advance lease (next (.error error))
    | (.inLine attempt expiry, after) => (⟨.inLine attempt expiry none next, lease⟩, after)
  | .step (.release kind token) next => (world.unlock kind token).advance none (next ())

/-- Starts a request. -/
def start (world : World) (request : Request α) : Task α × World :=
  world.advance none request

/-- The instant at which a task can go on: at once when it was let through to a lock, and
otherwise when what it waits for is over or given up. -/
def wakes? (world : World) (task : Task α) : Option Instant :=
  match task.phase with
  | .finished _ => none
  | .inLine attempt expiry _ _ =>
    if world.arena.isThrough attempt then some world.clock else some expiry
  | .busy ready _ _ => some ready
  | .busyBefore ready expiry _ _ => some (min ready expiry)

/-- Carries a task forward that can go on now. -/
def resume (world : World) (task : Task α) : Task α × World :=
  match task.phase with
  | .finished _ => (task, world)
  | .inLine attempt _ kind next =>
    if world.arena.isThrough attempt then
      { world with arena := world.arena.claim attempt }.advance
        (Lease.ofToken kind attempt.token <|> task.lease) (next (.ok attempt.token))
    else
      { world with arena := world.arena.withdraw attempt }.advance task.lease
        (next (.error (world.arena.timedOut attempt.key)))
  | .busy _ action next =>
    let (answer, after) := world.act action
    after.advance task.lease (next answer)
  | .busyBefore ready _ action next =>
    if ready ≤ world.clock then
      let (answer, after) := world.act action
      after.advance task.lease (next (some answer))
    else world.advance task.lease (next none)

/-- Drops a task: it leaves the line, and the lock that it holds is given back. -/
def drop (world : World) (task : Task α) : World :=
  let left := match task.phase with
    | .inLine attempt _ _ _ => { world with arena := world.arena.withdraw attempt }
    | _ => world
  match task.lease with
  | none => left
  | some lease => left.unlock lease.kind lease.token

end World

end ReleaseCatalog
