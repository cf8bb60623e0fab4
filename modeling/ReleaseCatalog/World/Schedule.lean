/-
How several tasks share the world. Every task runs until it has to wait; then the running clock
moves to the first instant at which one of them can go on, and that one is carried forward. Tasks
in the background take part in this, but nobody waits for them to finish.
-/

import ReleaseCatalog.World.Task

namespace ReleaseCatalog.World

/-- Whose turn it is. -/
inductive Turn where
  | foreground (index : Nat)
  | background (index : Nat)

/-- The instants at which tasks can go on, with whose turn it is then. -/
def turns (world : World) (tasks : List (Task α)) : List (Instant × Turn) :=
  let collect (at_ : Option Instant) (turn : Turn) : List (Instant × Turn) :=
    match at_ with
    | some instant => [(instant, turn)]
    | none => []
  (tasks.mapIdx fun index task => collect (world.wakes? task) (.foreground index)).flatten ++
    (world.background.mapIdx fun index entry =>
      collect (world.wakes? entry.2) (.background index)).flatten

/-- The earliest of the turns, and of several at one instant the first. -/
def earliest : List (Instant × Turn) → Option (Instant × Turn)
  | [] => none
  | turn :: rest =>
    match earliest rest with
    | none => some turn
    | some other => if other.1 < turn.1 then some other else some turn

/-- Carries forward the task whose turn it is. -/
def take (world : World) (tasks : List (Task α)) : Turn → World × List (Task α)
  | .foreground index =>
    match tasks[index]? with
    | none => (world, tasks)
    | some task =>
      let (task, after) := world.resume task
      (after, tasks.set index task)
  | .background index =>
    match world.background[index]? with
    | none => (world, tasks)
    | some (name, task) =>
      let (task, after) := world.resume task
      ({ after with background := after.background.set index (name, task) }, tasks)

/-- Lets tasks take turns until all in the foreground are finished, nothing can go on, or nothing
can go on by the instant `stop`. Every turn ends one wait, so that as many rounds are enough as the
tasks may still wait in all. -/
def rounds (stop : Option Instant) : Nat → World → List (Task α) → World × List (Task α)
  | 0, world, tasks => (world, tasks)
  | fuel + 1, world, tasks =>
    if tasks.all fun task => task.result?.isSome then (world, tasks)
    else
      match earliest (world.turns tasks) with
      | none => (world, tasks)
      | some (instant, turn) =>
        let late := stop.any fun stop => stop < instant
        if late then ({ world with clock := max world.clock (stop.getD world.clock) }, tasks)
        else
          let (world, tasks) := { world with clock := max world.clock instant }.take tasks turn
          rounds stop fuel world tasks

/-- Lets tasks take turns until all in the foreground are finished or the stop is reached. No request
waits more than four times. -/
def settle (world : World) (stop : Option Instant) (tasks : List (Task α)) :
    World × List (Task α) :=
  rounds stop (4 * (tasks.length + world.background.length) + 4) world tasks

/-- Starts requests together, in order: each runs until it has to wait before the next starts. -/
def startAll (world : World) : List (Request α) → World × List (Task α)
  | [] => (world, [])
  | request :: rest =>
    let (task, after) := world.start request
    let (last, tasks) := after.startAll rest
    (last, task :: tasks)

/-- Runs requests together until all are finished. -/
def runAll (world : World) (requests : List (Request α)) : List (Option α) × World :=
  let (started, tasks) := world.startAll requests
  let (settled, tasks) := started.settle none tasks
  (tasks.map Task.result?, settled)

/-- Runs one request until it is finished. -/
def run (world : World) (request : Request α) : Option α × World :=
  let (task, started) := world.start request
  let (settled, tasks) := started.settle none [task]
  (tasks.head?.bind Task.result?, settled)

/-- Runs one request for at most the given span; after it the request is dropped, and answers
nothing. -/
def runFor (world : World) (span : Duration) (request : Request α) : Option α × World :=
  let stop := Instant.after world.clock span
  let (task, started) := world.start request
  let (settled, tasks) := started.settle (some stop) [task]
  match tasks with
  | task :: _ =>
    match task.result? with
    | some result => (some result, settled)
    | none => (none, settled.drop task)
  | [] => (none, settled)

/-- Lets the tasks in the background that were let through to their locks go on. -/
def wakeBackground (world : World) : World :=
  (List.range world.background.length).foldl (fun world index =>
    match world.background[index]? with
    | none => world
    | some (_, task) =>
      if world.wakes? task = some world.clock then
        (world.take ([] : List (Task Unit)) (.background index)).1
      else world) world

/-- The task in the background with a name. -/
def background? (world : World) (name : String) : Option (Task (Result LockToken)) :=
  world.background.lookup name

/-- Starts to wait for the lock of a key in the background. -/
def spawn (world : World) (name key : String) : World :=
  let (task, after) := world.start (Request.hold key)
  let others := after.background.filter fun entry => entry.1 != name
  { after with background := others ++ [(name, task)] }.wakeBackground

/-- Waits for a task in the background to finish, and takes it out of there. -/
def join (world : World) (name : String) : Option (Result LockToken) × World :=
  match world.background? name with
  | none => (none, world)
  | some task =>
    let others := world.background.filter fun entry => entry.1 != name
    let (settled, tasks) := { world with background := others }.settle none [task]
    (tasks.head?.bind Task.result?, settled)

end ReleaseCatalog.World
