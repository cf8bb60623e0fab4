/-
The world lets requests take turns as a system does. A world that keeps its catalog in memory shows
what a site shows; carrying a task forward until it has to wait is a run of the system, and so is
everything that happens until all tasks are finished. What holds of all runs of a system therefore
holds of the world.
-/

import ReleaseCatalog.Proofs.Concurrency.System
import ReleaseCatalog.World.Schedule

namespace ReleaseCatalog

variable {ι α : Type}

/-- How far a task has come, as a request among others. -/
def Phase.progress : Phase α → Progress α
  | .finished result => .ready (.done result)
  | .inLine attempt _ _ next => .waiting attempt next
  | .busy _ action next => .ready (.step (.act action) next)
  | .busyBefore _ expiry action next => .ready (.step (.actBefore expiry action) next)

/-- The world keeps its catalog in memory, nobody waits in the background, and it shows what the
site shows. -/
structure World.Shows (world : World) (site : Site) : Prop where
  backend : world.backend = .memory site.catalog
  arena : world.arena = site.arena
  today (reading : Nat) : site.calendar reading = world.today
  background : world.background = []

namespace World

variable {world : World} {site : Site}

/-- What an action does to the world, the site may serve. -/
theorem Shows.act (shows : world.Shows site) (action : Action) :
    ∃ after, site.Serves (.act action) (world.act action).1 after ∧
      (world.act action).2.Shows after := by
  cases action with
  | store call =>
    have answered : world.act (.store call) = ((site.store call).1,
        { world with backend := .memory (site.store call).2.catalog }) := by
      have today : world.today = site.now := (shows.today 0).symm
      show ((world.backend.perform world.today call).1,
        { world with backend := (world.backend.perform world.today call).2 }) = _
      rw [shows.backend, today]
      rfl
    rw [answered]
    exact ⟨(site.store call).2, .served (.act (.store call)), rfl, shows.arena,
      fun reading => shows.today (reading + 1), shows.background⟩
  | generate generator request =>
    refine ⟨site, .generated generator request _, ?_⟩
    cases generator with
    | recording => exact ⟨shows.backend, shows.arena, shows.today, shows.background⟩
    | remote => exact shows
  | pause => exact ⟨site, .served (.act .pause), shows⟩
  | now =>
    have today : (world.act .now).1 = site.now := (shows.today 0).symm
    rw [today]
    exact ⟨site.later, .served (.act .now), shows.backend, shows.arena,
      fun reading => shows.today (reading + 1), shows.background⟩

/-- The world shows the site with another arena when it gets the same one. -/
theorem Shows.withArena (shows : world.Shows site) (arena : Arena) :
    ({ world with arena := arena } : World).Shows (site.withArena arena) :=
  ⟨shows.backend, rfl, shows.today, shows.background⟩

theorem Shows.announce (shows : world.Shows site) (method : StoreMethod) :
    world.backend.announce method = (none, world.backend) := by
  rw [shows.backend]
  rfl

theorem Shows.unlock (shows : world.Shows site) (kind : LockKind) (token : LockToken) :
    (world.unlock kind token).Shows (site.unlock token) := by
  have unlocked : world.unlock kind token =
      { world with arena := (site.arena.release token).2 } := by
    unfold World.unlock
    rw [shows.announce, shows.arena]
  rw [unlocked]
  exact shows.withArena _

end World

namespace System

variable [DecidableEq ι]

/-- From the system, with nobody else calling, the caller can come to where its task has come, with a
site that the world shows. -/
def Reaches (system : System ι α) (caller : ι) (outcome : Task α × World) : Prop :=
  ∃ trace site, trace.filterMap Happening.outsider? = [] ∧
    Runs Site.Serves system trace (system.after caller site outcome.1.phase.progress) ∧
    outcome.2.Shows site

variable {system : System ι α} {caller : ι} {world : World} {outcome : Task α × World}

theorem reaches_of_shows (here : system.progress caller = outcome.1.phase.progress)
    (shows : outcome.2.Shows system.site) : system.Reaches caller outcome :=
  ⟨[], system.site, rfl, by simpa [after_of_progress_eq here] using .begun, shows⟩

/-- What is reached from a place that a run leads to is reached. -/
theorem Reaches.of_runs {site : Site} {between : Progress α} {trace : List (Happening ι)}
    (alone : trace.filterMap Happening.outsider? = [])
    (run : Runs Site.Serves system trace (system.after caller site between))
    (rest : (system.after caller site between).Reaches caller outcome) :
    system.Reaches caller outcome := by
  obtain ⟨later, last, aloneStill, more, shows⟩ := rest
  rw [after_after] at more
  refine ⟨trace ++ later, last, ?_, run.append more, shows⟩
  rw [List.filterMap_append, alone, aloneStill, List.append_nil]

/-- A call that takes no time is the first step of what follows. -/
theorem Reaches.of_call {call : Call} {next : call.Answer → Request α} {answer : call.Answer}
    {site : Site} {writes : List Write}
    (here : system.progress caller = .ready (.step call next)) (plain : call.isForLock = false)
    (served : system.site.Serves call answer site)
    (recorded : site.journal = system.site.journal ++ writes)
    (rest : (system.after caller site (.ready (next answer))).Reaches caller outcome) :
    system.Reaches caller outcome :=
  .of_runs rfl (Runs.begun.step (.call here plain served recorded)) rest

/-- Coming to the line of a key, and what follows. -/
theorem Reaches.of_lineUp {key : String} {next : Result LockToken → Request α}
    {kind : Option LockKind} {lease : Option Lease} {taken : LockToken → Option Lease}
    (shows : world.Shows system.site)
    (enter : ∀ id arena,
      { system.site.arena with nextToken := system.site.arena.nextToken + 1 }.enter key
        system.site.arena.nextToken = (id, arena) →
      Step Site.Serves system [] (system.afterLock caller arena
        (.visiting ⟨key, id, system.site.arena.nextToken⟩ next)))
    (goesOn : ∀ (system : System ι α) (world : World) (lease : Option Lease)
      (answer : Result LockToken), system.progress caller = .ready (next answer) →
      world.Shows system.site → system.Reaches caller (world.advance lease (next answer))) :
    system.Reaches caller (match world.lineUp key with
      | (.through token, after) => after.advance (taken token) (next (.ok token))
      | (.refused error, after) => after.advance lease (next (.error error))
      | (.inLine attempt expiry, after) => (⟨.inLine attempt expiry kind next, lease⟩, after)) := by
  have lined := runs_request enter
  unfold World.lineUp
  rw [shows.arena]
  by_cases through : (system.site.arena.request key).2.isThrough
      (system.site.arena.request key).1 = true
  · simp only [if_pos through]
    have run := lined.step (.register (after_progress_self ..) through)
    simp only [afterLock, after_after, after_site, Site.withArena_withArena, Site.arena_withArena]
      at run
    refine .of_runs rfl run (goesOn _ _ _ _ (after_progress_self ..) ?_)
    exact shows.withArena _
  · simp only [if_neg through]
    by_cases impatient : (system.site.arena.request key).2.patience.nanoseconds = 0
    · simp only [if_pos impatient]
      have run := lined.step (.giveUp (after_progress_self ..))
      simp only [afterLock, after_after, after_site, Site.withArena_withArena, Site.arena_withArena,
        Arena.key_request] at run
      refine .of_runs rfl run (goesOn _ _ _ _ (after_progress_self ..) ?_)
      exact shows.withArena _
    · simp only [if_neg impatient]
      exact ⟨[], _, rfl, lined, shows.withArena _⟩

/-- Carrying a request forward until it is finished or has to wait is a run of the system. -/
theorem reaches_advance (lease : Option Lease) {request : Request α}
    (here : system.progress caller = .ready request) (shows : world.Shows system.site) :
    system.Reaches caller (world.advance lease request) := by
  induction request generalizing system world lease with
  | done result => exact reaches_of_shows here shows
  | step call next inductionHypothesis =>
    have goesOn (system : System ι α) (world : World) (lease : Option Lease)
        (answer : call.Answer) (here : system.progress caller = .ready (next answer))
        (shows : world.Shows system.site) :
        system.Reaches caller (world.advance lease (next answer)) :=
      inductionHypothesis answer lease here shows
    cases call with
    | act action =>
      unfold World.advance
      by_cases instantly : world.span action = ⟨0⟩
      · rw [if_pos instantly]
        obtain ⟨after, served, showsAfter⟩ := shows.act action
        exact .of_call here rfl served served.made.2.1
          (goesOn _ _ _ _ (after_progress_self ..) showsAfter)
      · rw [if_neg instantly]
        exact reaches_of_shows here shows
    | actBefore expiry action =>
      unfold World.advance
      by_cases instantly : world.span action = ⟨0⟩
      · rw [if_pos instantly]
        obtain ⟨after, served, showsAfter⟩ := shows.act action
        exact .of_call here rfl (.inTime expiry served) served.made.2.1
          (goesOn _ _ _ (some _) (after_progress_self ..) showsAfter)
      · rw [if_neg instantly]
        by_cases late : expiry ≤ world.clock
        · rw [if_pos late]
          exact .of_call here rfl (.late expiry action) (List.append_nil _).symm
            (goesOn _ _ _ none (after_progress_self ..) shows)
        · rw [if_neg late]
          exact reaches_of_shows here shows
    | instant =>
      exact .of_call here rfl (.instant world.clock) (List.append_nil _).symm
        (goesOn _ _ _ world.clock (after_progress_self ..) shows)
    | acquire kind key =>
      unfold World.advance
      rw [shows.announce]
      exact .of_lineUp shows (fun id arena => .enter here) goesOn
    | hold key =>
      unfold World.advance
      exact .of_lineUp shows (fun id arena => .enterToHold here) goesOn
    | release kind token =>
      obtain ⟨trace, alone, run⟩ := exists_runs_unlock here
      exact .of_runs alone run (goesOn _ _ _ () (after_progress_self ..) (shows.unlock kind token))

/-- Carrying a task forward that can go on is a run of the system. -/
theorem reaches_resume {task : Task α} (here : system.progress caller = task.phase.progress)
    (shows : world.Shows system.site) : system.Reaches caller (world.resume task) := by
  obtain ⟨phase, lease⟩ := task
  cases phase with
  | finished result => exact reaches_of_shows here shows
  | inLine attempt expiry kind next =>
    unfold World.resume
    simp only [shows.arena]
    by_cases through : system.site.arena.isThrough attempt = true
    · rw [if_pos through]
      exact .of_runs rfl (Runs.begun.step (.register here through))
        (reaches_advance _ (after_progress_self ..) (shows.withArena _))
    · rw [if_neg through]
      exact .of_runs rfl (Runs.begun.step (.giveUp here))
        (reaches_advance _ (after_progress_self ..) (shows.withArena _))
  | busy ready action next =>
    obtain ⟨after, served, showsAfter⟩ := shows.act action
    exact .of_call here rfl served served.made.2.1
      (reaches_advance _ (after_progress_self ..) showsAfter)
  | busyBefore ready expiry action next =>
    unfold World.resume
    by_cases intime : ready ≤ world.clock
    · simp only [if_pos intime]
      obtain ⟨after, served, showsAfter⟩ := shows.act action
      exact .of_call here rfl (.inTime expiry served) served.made.2.1
        (reaches_advance _ (after_progress_self ..) showsAfter)
    · simp only [if_neg intime]
      exact .of_call here rfl (.late expiry action) (List.append_nil _).symm
        (reaches_advance _ (after_progress_self ..) shows)

/-! ### Many tasks -/

/-- From the system, with nobody else calling, the requests can come to where the tasks of their
numbers have come, with a site that the world shows. -/
def ReachesAll (system : System Nat α) (outcome : World × List (Task α)) : Prop :=
  ∃ trace last, trace.filterMap Happening.outsider? = [] ∧
    Runs Site.Serves system trace last ∧ outcome.1.Shows last.site ∧
    ∀ index task, outcome.2[index]? = some task → last.progress index = task.phase.progress

variable {requests : System Nat α} {tasks : List (Task α)}

theorem ReachesAll.of_runs {last : System Nat α} {trace : List (Happening Nat)}
    {outcome : World × List (Task α)} (alone : trace.filterMap Happening.outsider? = [])
    (run : Runs Site.Serves requests trace last) (rest : last.ReachesAll outcome) :
    requests.ReachesAll outcome := by
  obtain ⟨later, final, aloneStill, more, reached⟩ := rest
  refine ⟨trace ++ later, final, ?_, run.append more, reached⟩
  rw [List.filterMap_append, alone, aloneStill, List.append_nil]

theorem reachesAll_of_shows (shows : world.Shows requests.site)
    (attended : ∀ index task, tasks[index]? = some task →
      requests.progress index = task.phase.progress) : requests.ReachesAll (world, tasks) :=
  ⟨[], requests, rfl, .begun, shows, attended⟩

/-- One turn is a run of the system. -/
theorem reachesAll_take (shows : world.Shows requests.site)
    (attended : ∀ index task, tasks[index]? = some task →
      requests.progress index = task.phase.progress) (turn : World.Turn) :
    requests.ReachesAll (world.take tasks turn) := by
  cases turn with
  | background index =>
    unfold World.take
    simp only [shows.background, List.getElem?_nil]
    exact reachesAll_of_shows shows attended
  | foreground index =>
    cases found : tasks[index]? with
    | none =>
      simp only [World.take, found]
      exact reachesAll_of_shows shows attended
    | some task =>
      simp only [World.take, found]
      obtain ⟨trace, site, alone, run, showsAfter⟩ :=
        reaches_resume (attended index task found) shows
      refine ⟨trace, _, alone, run, showsAfter, fun other later foundLater => ?_⟩
      obtain ⟨inRange, -⟩ := List.getElem?_eq_some_iff.mp found
      by_cases same : other = index
      · subst same
        rw [List.getElem?_set_self inRange, Option.some_inj] at foundLater
        rw [after_progress_self, ← foundLater]
      · rw [List.getElem?_set_ne (Ne.symm same)] at foundLater
        exact (Function.update_of_ne same _ _).trans (attended other later foundLater)

/-- Any number of turns are a run of the system. -/
theorem reachesAll_rounds (stop : Option Instant) (fuel : Nat) (shows : world.Shows requests.site)
    (attended : ∀ index task, tasks[index]? = some task →
      requests.progress index = task.phase.progress) :
    requests.ReachesAll (World.rounds stop fuel world tasks) := by
  induction fuel generalizing requests world tasks with
  | zero => exact reachesAll_of_shows shows attended
  | succ fuel inductionHypothesis =>
    have showsAt (clock : Instant) : ({ world with clock := clock } : World).Shows requests.site :=
      ⟨shows.backend, shows.arena, shows.today, shows.background⟩
    unfold World.rounds
    by_cases finished : (tasks.all fun task => task.result?.isSome) = true
    · rw [if_pos finished]
      exact reachesAll_of_shows shows attended
    · rw [if_neg finished]
      cases World.earliest (world.turns tasks) with
      | none => exact reachesAll_of_shows shows attended
      | some next =>
        obtain ⟨instant, turn⟩ := next
        by_cases late : (stop.any fun stop => stop < instant) = true
        · simp only [if_pos late]
          exact reachesAll_of_shows (showsAt _) attended
        · simp only [if_neg late]
          obtain ⟨trace, last, alone, run, showsAfter, attendedAfter⟩ :=
            reachesAll_take (showsAt (max world.clock instant)) attended turn
          exact .of_runs alone run (inductionHypothesis showsAfter attendedAfter)

/-- Starting requests one after another is a run of the system. -/
theorem exists_runs_startAll {asked : List (Request α)} {offset : Nat}
    (ready : ∀ index request, asked[index]? = some request →
      requests.progress (offset + index) = .ready request)
    (shows : world.Shows requests.site) :
    ∃ trace last, trace.filterMap Happening.outsider? = [] ∧
      Runs Site.Serves requests trace last ∧ (world.startAll asked).1.Shows last.site ∧
      (∀ index task, (world.startAll asked).2[index]? = some task →
        last.progress (offset + index) = task.phase.progress) ∧
      ∀ other, other < offset → last.progress other = requests.progress other := by
  induction asked generalizing requests world offset with
  | nil =>
    refine ⟨[], requests, rfl, .begun, shows, fun index task found => ?_, fun _ _ => rfl⟩
    simp [World.startAll] at found
  | cons first rest inductionHypothesis =>
    obtain ⟨trace, site, alone, run, showsAfter⟩ :=
      reaches_advance none (ready 0 first rfl) shows
    have others (other : Nat) (differ : other ≠ offset) (progress : Progress α) :
        (requests.after offset site progress).progress other = requests.progress other :=
      Function.update_of_ne differ _ _
    obtain ⟨later, last, aloneStill, more, showsLast, attended, kept⟩ :=
      @inductionHypothesis _ (requests.after offset site _) (offset + 1)
        (fun index request found => by
          rw [others _ (by omega), Nat.add_right_comm]
          exact ready (index + 1) request found) showsAfter
    refine ⟨trace ++ later, last, ?_, run.append more, showsLast, fun index task found => ?_,
      fun other before => ?_⟩
    · rw [List.filterMap_append, alone, aloneStill, List.append_nil]
    · cases index with
      | zero =>
        cases found
        rw [Nat.add_zero, kept offset (Nat.lt_succ_self offset), after_progress_self]
      | succ index =>
        rw [← attended index task found, Nat.add_right_comm]
        rfl
    · rw [kept other (Nat.lt_succ_of_lt before), others other (Nat.ne_of_lt before)]

end System

/-- Running requests together until all are finished is a run of a system, in which each request
has come to the result that it has in the world. -/
theorem World.exists_runs_runAll {world : World} {start : System Nat α}
    {requests : List (Request α)} (shows : world.Shows start.site)
    (ready : ∀ index request, requests[index]? = some request →
      start.progress index = .ready request) :
    ∃ trace last, trace.filterMap Happening.outsider? = [] ∧
      System.Runs Site.Serves start trace last ∧ (world.runAll requests).2.Shows last.site ∧
      ∀ index result, (world.runAll requests).1[index]? = some (some result) →
        last.progress index = .ready (.done result) := by
  have readyFirst (index : Nat) (request : Request α) (found : requests[index]? = some request) :
      start.progress (0 + index) = .ready request := by
    rw [Nat.zero_add]
    exact ready index request found
  obtain ⟨first, middle, alone, started, showsStarted, attended, -⟩ :=
    System.exists_runs_startAll readyFirst shows
  simp only [Nat.zero_add] at attended
  have settled : start.ReachesAll ((world.startAll requests).1.settle none
      (world.startAll requests).2) :=
    .of_runs alone started (System.reachesAll_rounds none _ showsStarted attended)
  obtain ⟨trace, last, aloneAll, run, showsLast, attendedLast⟩ := settled
  refine ⟨trace, last, aloneAll, run, showsLast, fun index result found => ?_⟩
  obtain ⟨task, there, finished⟩ : ∃ task, ((world.startAll requests).1.settle none
      (world.startAll requests).2).2[index]? = some task ∧ task.result? = some result := by
    simpa [World.runAll, List.getElem?_map] using found
  rw [attendedLast index task there]
  obtain ⟨phase, lease⟩ := task
  cases phase with
  | finished other =>
    cases finished
    rfl
  | inLine | busy | busyBefore => cases finished

end ReleaseCatalog
