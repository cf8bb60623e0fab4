/-
A store in the hands of one user, who asks for one operation after another. The operations are the
calls of the store and those on its locks, and each is a request of its own that is run to its end.
Nobody else is there who could give a lock back, so that an attempt at a lock either is let through
at once or waits in vain.
-/

import ReleaseCatalog.World.Schedule

namespace ReleaseCatalog

/-- What can be asked of a store. -/
inductive Operation where
  | store (call : StoreCall)
  | acquire (kind : LockKind) (key : String)
  | release (kind : LockKind) (token : LockToken)

namespace Operation

/-- What an operation answers. -/
def Answer : Operation → Type
  | store call => call.Answer
  | acquire _ _ => Result LockToken
  | release _ _ => Unit

/-- An operation as a request. -/
def request : (operation : Operation) → Request operation.Answer
  | store call => Request.call (.act (.store call))
  | acquire kind key => Request.acquire kind key
  | release kind token => Request.call (.release kind token)

end Operation

/-- What an attempt at the lock of a key comes to when nobody gives a lock back meanwhile. -/
def Arena.tryAlone (arena : Arena) (key : String) : Result LockToken × Arena :=
  let (attempt, after) := arena.request key
  if after.isThrough attempt then (.ok attempt.token, after.claim attempt)
  else (.error (after.timedOut key), after.withdraw attempt)

/-- What an operation answers, and what it does to a store and to its locks. -/
def Operation.perform (now : Timestamp) (backend : Backend) (arena : Arena) :
    (operation : Operation) → operation.Answer × Backend × Arena
  | store call => ((backend.perform now call).1, (backend.perform now call).2, arena)
  | acquire _ key => ((arena.tryAlone key).1, backend, (arena.tryAlone key).2)
  | release _ token => ((), backend, (arena.release token).2)

namespace World

/-- Runs an operation to its end. -/
def operate (world : World) (operation : Operation) : Option operation.Answer × World :=
  world.run operation.request

/-- The answers to operations, each with what the calendar shows at it, and the world after them. -/
def operateAll (world : World) :
    List (Timestamp × Operation) → List (Σ operation : Operation, Option operation.Answer) × World
  | [] => ([], world)
  | (now, operation) :: rest =>
    let (answer, after) := { world with today := now }.operate operation
    let (answers, last) := after.operateAll rest
    (⟨operation, answer⟩ :: answers, last)

theorem operateAll_cons (world : World) (now : Timestamp) (operation : Operation)
    (rest : List (Timestamp × Operation)) :
    world.operateAll ((now, operation) :: rest) =
      (⟨operation, ({ world with today := now }.operate operation).1⟩ ::
          (({ world with today := now }.operate operation).2.operateAll rest).1,
        (({ world with today := now }.operate operation).2.operateAll rest).2) := rfl

/-- A store that nobody has used, with locks that are waited for as long as `patience`. -/
def fresh (patience : Duration) (backend : Backend) : World :=
  { backend := backend, arena := { patience := patience } }

/-! ### Requests that run alone -/

/-- A request that does not have to wait answers at once. -/
theorem run_of_finished {α : Type} {world after : World} {request : Request α} {result : α}
    {lease : Option Lease} (started : world.start request = (⟨.finished result, lease⟩, after)) :
    world.run request = (some result, after) := by
  unfold run
  rw [started]
  simp [settle, rounds, Task.result?]

/-- A request that has to wait for a lock goes on when its patience is over. -/
theorem run_of_inLine {α : Type} {world after : World} {request : Request α}
    {attempt : Arena.Attempt} {expiry : Instant} {kind : Option LockKind}
    {next : Result LockToken → α} {lease : Option Lease}
    (started : world.start request =
      (⟨.inLine attempt expiry kind fun answer => .done (next answer), lease⟩, after))
    (alone : after.background = []) (waiting : after.arena.isThrough attempt = false) :
    world.run request =
      (some (next (.error (after.arena.timedOut attempt.key))),
        { after with
          arena := after.arena.withdraw attempt
          clock := max after.clock expiry }) := by
  have turns : after.turns
      [⟨.inLine attempt expiry kind fun answer => .done (next answer), lease⟩] =
        [(expiry, .foreground 0)] := by
    simp [World.turns, alone, wakes?, waiting]
  unfold run
  rw [started]
  simp [settle, rounds, Task.result?, alone, turns, earliest, take, resume, waiting, advance]

end World

/-- A store that has nothing to do with its locks. -/
def Backend.IsSilent (backend : Backend) : Prop :=
  ∀ method, backend.announce method = (none, backend)

theorem Backend.isSilent_memory (catalog : Catalog) : (memory catalog).IsSilent := fun _ => rfl

theorem Backend.isSilent_tables (database : Tables) : (tables database).IsSilent := fun _ => rfl

namespace World

theorem start_acquire {world : World} {backend : Backend} {kind : LockKind}
    (announced : world.backend.announce (.acquire kind) = (none, backend)) (key : String) :
    world.start (Request.acquire kind key) =
      match { world with backend := backend }.lineUp key with
      | (.through token, after) => (⟨.finished (.ok token), some ⟨kind, token⟩⟩, after)
      | (.refused error, after) => (⟨.finished (.error error), none⟩, after)
      | (.inLine attempt expiry, after) =>
        (⟨.inLine attempt expiry (some kind) fun answer => .done answer, none⟩, after) := by
  show world.advance none (.step (.acquire kind key) .done) = _
  rw [advance, announced]
  rcases arrival : { world with backend := backend }.lineUp key with
      ⟨token | error | ⟨attempt, expiry⟩, after⟩ <;>
    · simp only [arrival, advance]
      rfl

/-- An attempt at a lock that the store lets pass comes to what it comes to alone, however long it
waits. -/
theorem run_acquire {world : World} (alone : world.background = []) {backend : Backend}
    {kind : LockKind} (announced : world.backend.announce (.acquire kind) = (none, backend))
    (key : String) :
    ∃ clock, world.run (Request.acquire kind key) =
      (some (world.arena.tryAlone key).1,
        { world with
          backend := backend
          arena := (world.arena.tryAlone key).2
          clock := clock }) := by
  have started := start_acquire announced key
  unfold lineUp at started
  unfold Arena.tryAlone
  rcases requested : world.arena.request key with ⟨attempt, entered⟩
  simp only [requested] at started ⊢
  cases through : entered.isThrough attempt with
  | true =>
    simp only [through, if_true] at started ⊢
    exact ⟨world.clock, run_of_finished started⟩
  | false =>
    simp only [through, Bool.false_eq_true, if_false] at started ⊢
    by_cases impatient : entered.patience.nanoseconds = 0
    · rw [if_pos impatient] at started
      exact ⟨world.clock, run_of_finished started⟩
    · rw [if_neg impatient] at started
      have own : attempt.key = key := (congrArg (·.1.key) requested).symm
      have waited := run_of_inLine started alone through
      rw [own] at waited
      exact ⟨_, waited⟩

/-- An attempt at a lock that the store makes fail does not come to the line. -/
theorem run_acquire_of_error {world : World} {backend : Backend} {kind : LockKind}
    {error : CatalogError}
    (announced : world.backend.announce (.acquire kind) = (some error, backend)) (key : String) :
    world.run (Request.acquire kind key) =
      (some (.error error), { world with backend := backend }) := by
  have started : world.start (Request.acquire kind key) =
      (⟨.finished (.error error), none⟩, { world with backend := backend }) := by
    show world.advance none (.step (.acquire kind key) .done) = _
    rw [advance, announced]
    rfl
  exact run_of_finished started

theorem run_store (world : World) (call : StoreCall) :
    world.run (Request.call (.act (.store call))) =
      (some (world.backend.perform world.today call).1,
        { world with backend := (world.backend.perform world.today call).2 }) := by
  have started : world.start (Request.call (.act (.store call))) =
      (⟨.finished (world.backend.perform world.today call).1, none⟩,
        { world with backend := (world.backend.perform world.today call).2 }) := by
    show world.advance none (.step (.act (.store call)) .done) = _
    rw [advance]
    rfl
  exact run_of_finished started

theorem run_release (world : World) (kind : LockKind) (token : LockToken) :
    world.run (Request.call (.release kind token)) = (some (), world.unlock kind token) := by
  have started : world.start (Request.call (.release kind token)) =
      (⟨.finished (), none⟩, world.unlock kind token) := by
    show world.advance none (.step (.release kind token) .done) = _
    rw [advance]
    rfl
  exact run_of_finished started

/-- An operation does to the world what it does to the store and the locks. -/
theorem operate_eq {world : World} (alone : world.background = [])
    (silent : world.backend.IsSilent) (operation : Operation) :
    ∃ clock, world.operate operation =
      (some (operation.perform world.today world.backend world.arena).1,
        { world with
          backend := (operation.perform world.today world.backend world.arena).2.1
          arena := (operation.perform world.today world.backend world.arena).2.2
          clock := clock }) := by
  cases operation with
  | store call => exact ⟨world.clock, run_store world call⟩
  | acquire kind key => exact run_acquire alone (silent _) key
  | release kind token =>
    have released : world.unlock kind token =
        { world with arena := (world.arena.release token).2 } := by
      rw [unlock, silent]
    exact ⟨world.clock, released ▸ run_release world kind token⟩

end World

end ReleaseCatalog
