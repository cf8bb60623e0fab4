/-
Settling. Tasks that share the world take turns, and every turn ends a wait of one of them. With as
many turns as all tasks may still wait, the foreground is finished when the turns are used up, or
nothing can go on by the instant at which to stop; the rounds of `settle` are enough for that, since
a request waits three times at most and a task in the background once.
-/

import ReleaseCatalog.Proofs.World.Waiting
import ReleaseCatalog.World.Schedule

namespace ReleaseCatalog.World

variable {α : Type} {limit : Nat}

/-! ### Turns -/

/-- Everything that is not finished can go on at some instant. -/
theorem wakes?_eq_none_iff (world : World) (task : Task α) :
    world.wakes? task = none ↔ task.result?.isSome = true := by
  obtain ⟨phase, lease⟩ := task
  cases phase with
  | inLine attempt expiry kind next =>
    show (if world.arena.isThrough attempt then some world.clock else some expiry) = none ↔ _
    split <;> exact ⟨nofun, nofun⟩
  | finished | busy | busyBefore => simp [wakes?, Task.result?]

/-- It is the turn of every task in the foreground that can go on at some instant. -/
theorem mem_turns_foreground {world : World} {tasks : List (Task α)} {instant : Instant}
    {index : Nat} :
    (instant, .foreground index) ∈ world.turns tasks ↔
      ∃ task, tasks[index]? = some task ∧ world.wakes? task = some instant := by
  simp only [turns, List.mem_append, List.mem_flatten, List.mem_mapIdx]
  constructor
  · rintro (⟨_, ⟨other, bound, rfl⟩, member⟩ | ⟨_, ⟨other, bound, rfl⟩, member⟩)
    · split at member
      next wakes =>
        cases List.mem_singleton.mp member
        exact ⟨_, List.getElem?_eq_getElem bound, wakes⟩
      next => cases member
    · split at member
      next => cases List.mem_singleton.mp member
      next => cases member
  · rintro ⟨task, found, wakes⟩
    obtain ⟨bound, rfl⟩ := List.getElem?_eq_some_iff.mp found
    refine .inl ⟨_, ⟨index, bound, rfl⟩, ?_⟩
    rw [wakes]
    exact List.mem_singleton_self _

/-- So it is of those in the background. -/
theorem mem_turns_background {world : World} {tasks : List (Task α)} {instant : Instant}
    {index : Nat} :
    (instant, .background index) ∈ world.turns tasks ↔
      ∃ entry, world.background[index]? = some entry ∧ world.wakes? entry.2 = some instant := by
  simp only [turns, List.mem_append, List.mem_flatten, List.mem_mapIdx]
  constructor
  · rintro (⟨_, ⟨other, bound, rfl⟩, member⟩ | ⟨_, ⟨other, bound, rfl⟩, member⟩)
    · split at member
      next => cases List.mem_singleton.mp member
      next => cases member
    · split at member
      next wakes =>
        cases List.mem_singleton.mp member
        exact ⟨_, List.getElem?_eq_getElem bound, wakes⟩
      next => cases member
  · rintro ⟨entry, found, wakes⟩
    obtain ⟨bound, rfl⟩ := List.getElem?_eq_some_iff.mp found
    refine .inr ⟨_, ⟨index, bound, rfl⟩, ?_⟩
    rw [wakes]
    exact List.mem_singleton_self _

/-- When the clock is set, only tasks that could go on at once can go on at another instant. -/
theorem wakes?_of_clock {world : World} {task : Task α} {instant clock : Instant}
    (wakes : { world with clock := clock }.wakes? task = some instant) :
    world.wakes? task = some instant ∨
      (instant = clock ∧ world.wakes? task = some world.clock) := by
  obtain ⟨phase, lease⟩ := task
  cases phase with
  | finished result => cases wakes
  | busy | busyBefore => exact .inl wakes
  | inLine attempt expiry kind next =>
    simp only [wakes?] at wakes ⊢
    split at wakes
    next through =>
      rw [if_pos through]
      exact .inr ⟨(Option.some.inj wakes).symm, rfl⟩
    next waiting =>
      rw [if_neg waiting]
      exact .inl wakes

theorem mem_turns_of_clock {world : World} {tasks : List (Task α)} {instant clock : Instant}
    {turn : Turn} (member : (instant, turn) ∈ { world with clock := clock }.turns tasks) :
    (instant, turn) ∈ world.turns tasks ∨
      (instant = clock ∧ (world.clock, turn) ∈ world.turns tasks) := by
  cases turn with
  | foreground index =>
    obtain ⟨task, found, wakes⟩ := mem_turns_foreground.mp member
    rcases wakes?_of_clock wakes with same | ⟨now, through⟩
    · exact .inl (mem_turns_foreground.mpr ⟨task, found, same⟩)
    · exact .inr ⟨now, mem_turns_foreground.mpr ⟨task, found, through⟩⟩
  | background index =>
    obtain ⟨entry, found, wakes⟩ := mem_turns_background.mp member
    rcases wakes?_of_clock wakes with same | ⟨now, through⟩
    · exact .inl (mem_turns_background.mpr ⟨entry, found, same⟩)
    · exact .inr ⟨now, mem_turns_background.mpr ⟨entry, found, through⟩⟩

theorem earliest_eq_none_iff {turns : List (Instant × Turn)} :
    earliest turns = none ↔ turns = [] := by
  cases turns with
  | nil => exact ⟨fun _ => rfl, fun _ => rfl⟩
  | cons turn rest =>
    refine ⟨fun found => ?_, nofun⟩
    unfold earliest at found
    split at found
    · cases found
    · split at found <;> cases found

/-- The earliest turn is one of them, and none is earlier. -/
theorem earliest_eq_some {turns : List (Instant × Turn)} {first : Instant × Turn}
    (found : earliest turns = some first) : first ∈ turns ∧ ∀ turn ∈ turns, first.1 ≤ turn.1 := by
  induction turns generalizing first with
  | nil => cases found
  | cons turn rest inductionHypothesis =>
    unfold earliest at found
    split at found
    next empty =>
      cases found
      rw [earliest_eq_none_iff.mp empty]
      simp
    next other later =>
      obtain ⟨member, least⟩ := inductionHypothesis later
      split at found
      next earlier =>
        cases found
        exact ⟨List.mem_cons_of_mem _ member,
          List.forall_mem_cons.mpr ⟨Nat.le_of_lt earlier, least⟩⟩
      next notEarlier =>
        cases found
        refine ⟨List.mem_cons_self, List.forall_mem_cons.mpr ⟨Nat.le_refl _, fun turn among => ?_⟩⟩
        exact Nat.le_trans (Nat.le_of_not_lt notEarlier) (least turn among)

/-! ### Rounds -/

/-- Tasks in the foreground and those in the background wait at most a number of times in all. -/
def WaitAtMost (world : World) (tasks : List (Task α)) (limit : Nat) : Prop :=
  ∃ own others, Task.WaitAtMost tasks own ∧
    Task.WaitAtMost (world.background.map Prod.snd) others ∧ own + others ≤ limit

theorem result?_eq_none_of_wakes {world : World} {task : Task α} {instant : Instant}
    (wakes : world.wakes? task = some instant) : task.result? = none := by
  refine Option.not_isSome_iff_eq_none.mp fun finished => ?_
  rw [(world.wakes?_eq_none_iff task).mpr finished] at wakes
  cases wakes

/-- Every turn ends a wait. -/
theorem WaitAtMost.take {world : World} {tasks : List (Task α)} {instant clock : Instant}
    {turn : Turn} (within : world.WaitAtMost tasks limit)
    (theirs : (instant, turn) ∈ world.turns tasks) :
    ∃ less < limit, ({ world with clock := clock }.take tasks turn).1.WaitAtMost
      ({ world with clock := clock }.take tasks turn).2 less := by
  obtain ⟨own, others, foreground, background, enough⟩ := within
  cases turn with
  | foreground index =>
    obtain ⟨task, found, wakes⟩ := mem_turns_foreground.mp theirs
    obtain ⟨less, lt, fewer⟩ := foreground.set found fun own one =>
      waitsAtMost_resume { world with clock := clock } (result?_eq_none_of_wakes wakes) one
    unfold World.take
    simp only [found]
    refine ⟨less + others, by omega, less, others, fewer, ?_, Nat.le_refl _⟩
    rw [background_resume]
    exact background
  | background index =>
    obtain ⟨⟨name, task⟩, found, wakes⟩ := mem_turns_background.mp theirs
    have place : (world.background.map Prod.snd)[index]? = some task := by
      rw [List.getElem?_map, found]
      rfl
    obtain ⟨less, lt, fewer⟩ := background.set place fun own one =>
      waitsAtMost_resume { world with clock := clock } (result?_eq_none_of_wakes wakes) one
    unfold World.take
    simp only [found]
    refine ⟨own + less, by omega, own, less, foreground, ?_, Nat.le_refl _⟩
    rw [background_resume, List.map_set]
    exact fewer

/-- Tasks have settled: those in the foreground are finished, or none of all can go on by the
instant at which to stop. -/
def Settled (stop : Option Instant) (world : World) (tasks : List (Task α)) : Prop :=
  (∀ task ∈ tasks, task.result?.isSome = true) ∨
    ∃ time, stop = some time ∧ ∀ turn ∈ world.turns tasks, time < turn.1

/-- Nothing is left that can go on only when the foreground is finished. -/
theorem finished_of_turns_eq_nil {world : World} {tasks : List (Task α)}
    (none : world.turns tasks = []) : ∀ task ∈ tasks, task.result?.isSome = true := by
  intro task member
  obtain ⟨index, found⟩ := List.mem_iff_getElem?.mp member
  refine (world.wakes?_eq_none_iff task).mp (Option.eq_none_iff_forall_ne_some.mpr ?_)
  intro instant wakes
  have theirs := mem_turns_foreground.mpr ⟨task, found, wakes⟩
  rw [none] at theirs
  cases theirs

/-- Where the first turn is later than the stop, all are, also once the clock has come there. -/
theorem lt_of_late {world : World} {tasks : List (Task α)} {first : Instant × Turn}
    {time : Instant} (least : ∀ turn ∈ world.turns tasks, first.1 ≤ turn.1)
    (late : time < first.1) :
    ∀ turn ∈ { world with clock := max world.clock time }.turns tasks, time < turn.1 := by
  rintro ⟨instant, turn⟩ member
  rcases mem_turns_of_clock member with before | ⟨rfl, before⟩
  · exact Nat.lt_of_lt_of_le late (least _ before)
  · have reached : first.1 ≤ world.clock := least _ before
    exact Nat.lt_of_lt_of_le late (Nat.le_trans reached (Nat.le_max_left _ _))

/-- Tasks settle in as many rounds as they may still wait. -/
theorem settled_rounds {stop : Option Instant} {fuel : Nat} {world : World}
    {tasks : List (Task α)} (within : world.WaitAtMost tasks limit) (enough : limit ≤ fuel) :
    Settled stop (rounds stop fuel world tasks).1 (rounds stop fuel world tasks).2 := by
  induction fuel generalizing world tasks limit with
  | zero =>
    obtain ⟨own, others, foreground, -, few⟩ := within
    exact .inl (foreground.mono (by omega)).finished
  | succ fuel inductionHypothesis =>
    unfold rounds
    split
    next finished => exact .inl (List.all_eq_true.mp finished)
    next unfinished =>
      split
      next none => exact .inl (finished_of_turns_eq_nil (earliest_eq_none_iff.mp none))
      next instant turn found =>
        obtain ⟨theirs, least⟩ := earliest_eq_some found
        dsimp only
        split
        next late =>
          obtain ⟨time, rfl, later⟩ := (Option.any_eq_true _ _).mp late
          exact .inr ⟨time, rfl, lt_of_late least (of_decide_eq_true later)⟩
        next inTime =>
          obtain ⟨less, lt, fewer⟩ := within.take theirs
          exact inductionHypothesis fewer (by omega)

/-- What is kept when the clock is set and when a turn is taken is kept by all rounds. -/
theorem rounds_keeps (kept : World → List (Task α) → Prop)
    (clock : ∀ world tasks clock, kept world tasks → kept { world with clock := clock } tasks)
    (take : ∀ world tasks turn, kept world tasks →
      kept (world.take tasks turn).1 (world.take tasks turn).2)
    (stop : Option Instant) (fuel : Nat) {world : World} {tasks : List (Task α)}
    (begun : kept world tasks) :
    kept (rounds stop fuel world tasks).1 (rounds stop fuel world tasks).2 := by
  induction fuel generalizing world tasks with
  | zero => exact begun
  | succ fuel inductionHypothesis =>
    unfold rounds
    split
    · exact begun
    · split
      · exact begun
      · dsimp only
        split
        · exact clock _ _ _ begun
        · exact inductionHypothesis (take _ _ _ (clock _ _ _ begun))

/-- A turn takes no task away and adds none. -/
theorem length_take (world : World) (tasks : List (Task α)) (turn : Turn) :
    (world.take tasks turn).2.length = tasks.length := by
  unfold World.take
  cases turn with
  | foreground index =>
    dsimp only
    split
    · rfl
    · exact List.length_set
  | background index =>
    dsimp only
    split <;> rfl

theorem length_settle (world : World) (stop : Option Instant) (tasks : List (Task α)) :
    (world.settle stop tasks).2.length = tasks.length :=
  rounds_keeps (fun _ others => others.length = tasks.length) (fun _ _ _ same => same)
    (fun world others turn same => (length_take world others turn).trans same) stop _ rfl

/-! ### The background -/

/-- Tasks in the background wait only for the locks that they were started for. -/
def WaitsInBackgroundOnce (world : World) : Prop :=
  ∀ entry ∈ world.background, entry.2.WaitsAtMost 1

/-- At first there is nothing in the background. -/
theorem waitsInBackgroundOnce_default : (default : World).WaitsInBackgroundOnce :=
  List.forall_mem_nil _

theorem WaitsInBackgroundOnce.take {world : World} (once : world.WaitsInBackgroundOnce)
    (tasks : List (Task α)) (turn : Turn) : (world.take tasks turn).1.WaitsInBackgroundOnce := by
  unfold World.take
  cases turn with
  | foreground index =>
    dsimp only
    split
    · exact once
    next task _ =>
      intro entry member
      rw [background_resume] at member
      exact once entry member
  | background index =>
    dsimp only
    split
    · exact once
    next name task found =>
      intro entry member
      rw [background_resume] at member
      rcases List.mem_or_eq_of_mem_set member with before | rfl
      · exact once entry before
      · exact waitsAtMost_resume_self world (once _ (List.mem_of_getElem? found))

theorem WaitsInBackgroundOnce.settle {stop : Option Instant} {world : World}
    {tasks : List (Task α)} (once : world.WaitsInBackgroundOnce) :
    (world.settle stop tasks).1.WaitsInBackgroundOnce :=
  rounds_keeps (fun world _ => world.WaitsInBackgroundOnce) (fun _ _ _ once => once)
    (fun _ tasks turn once => once.take tasks turn) stop _ once

/-- Tasks that wait four times at most settle. -/
theorem settled_settle {stop : Option Instant} {world : World} {tasks : List (Task α)}
    (once : world.WaitsInBackgroundOnce) (each : ∀ task ∈ tasks, task.WaitsAtMost 4) :
    Settled stop (world.settle stop tasks).1 (world.settle stop tasks).2 := by
  have background : ∀ task ∈ world.background.map Prod.snd, task.WaitsAtMost 1 := by
    intro task member
    obtain ⟨entry, among, rfl⟩ := List.mem_map.mp member
    exact once entry among
  have within : world.WaitAtMost tasks (4 * tasks.length + 1 * world.background.length) := by
    refine ⟨_, _, Task.waitAtMost_of_forall each, Task.waitAtMost_of_forall background, ?_⟩
    exact Nat.le_of_eq (by rw [List.length_map])
  exact settled_rounds within (by omega)

/-! ### Requests that are run -/

/-- Requests that are started together each have before them what they had. -/
theorem waitsAtMost_startAll {requests : List (Request α)} (world : World)
    (each : ∀ request ∈ requests, request.WaitsAtMost limit) :
    ∀ task ∈ (world.startAll requests).2, task.WaitsAtMost limit := by
  induction requests generalizing world with
  | nil => exact List.forall_mem_nil _
  | cons request rest inductionHypothesis =>
    obtain ⟨first, later⟩ := List.forall_mem_cons.mp each
    exact List.forall_mem_cons.mpr
      ⟨waitsAtMost_advance world none first, inductionHypothesis (world.start request).2 later⟩

theorem background_startAll (world : World) (requests : List (Request α)) :
    (world.startAll requests).1.background = world.background := by
  induction requests generalizing world with
  | nil => rfl
  | cons request rest inductionHypothesis =>
    exact (inductionHypothesis (world.start request).2).trans (background_advance world none)

/-- Without an instant at which to stop, the foreground is finished when tasks have settled. -/
theorem finished_settle {world : World} {tasks : List (Task α)}
    (once : world.WaitsInBackgroundOnce) (each : ∀ task ∈ tasks, task.WaitsAtMost 4) :
    ∀ task ∈ (world.settle none tasks).2, task.result?.isSome = true := by
  have settled : Settled none _ _ := settled_settle once each
  rcases settled with finished | ⟨time, never, -⟩
  · exact finished
  · cases never

theorem isSome_head_settle {world : World} {task : Task α} (once : world.WaitsInBackgroundOnce)
    (waits : task.WaitsAtMost 4) :
    ((world.settle none [task]).2.head?.bind Task.result?).isSome = true := by
  have finished := finished_settle once (List.forall_mem_singleton.mpr waits)
  have one : (world.settle none [task]).2.length = 1 := length_settle _ _ _
  obtain ⟨last, same⟩ := List.length_eq_one_iff.mp one
  rw [same] at finished ⊢
  exact finished last List.mem_cons_self

theorem WaitsInBackgroundOnce.of_background_eq {world other : World}
    (once : world.WaitsInBackgroundOnce) (same : other.background = world.background) :
    other.WaitsInBackgroundOnce := by
  unfold WaitsInBackgroundOnce
  rw [same]
  exact once

theorem WaitsInBackgroundOnce.start {world : World} (once : world.WaitsInBackgroundOnce)
    (request : Request α) : (world.start request).2.WaitsInBackgroundOnce :=
  once.of_background_eq (background_advance world none)

/-- A request that is run comes to its end. -/
theorem isSome_run {world : World} (once : world.WaitsInBackgroundOnce) {request : Request α}
    (waits : request.WaitsAtMost 4) : (world.run request).1.isSome = true :=
  isSome_head_settle (once.start request) (waitsAtMost_advance world none waits)

/-- Requests that are run together all come to their ends. -/
theorem isSome_runAll {world : World} (once : world.WaitsInBackgroundOnce)
    {requests : List (Request α)} (waits : ∀ request ∈ requests, request.WaitsAtMost 4) :
    ∀ result ∈ (world.runAll requests).1, result.isSome = true := by
  intro result member
  obtain ⟨task, settled, rfl⟩ := List.mem_map.mp member
  exact finished_settle (once.of_background_eq (background_startAll world requests))
    (waitsAtMost_startAll world waits) task settled

/-- A request for a lock in the background comes to its end when it is waited for. -/
theorem isSome_join {world : World} (once : world.WaitsInBackgroundOnce) {name : String}
    {task : Task (Result LockToken)} (known : world.background? name = some task) :
    (world.join name).1.isSome = true := by
  obtain ⟨before, after, split, -⟩ := List.lookup_eq_some_iff.mp known
  have among : (name, task) ∈ world.background := split ▸ List.mem_append_right _ List.mem_cons_self
  unfold join
  rw [known]
  refine isSome_head_settle (fun entry member => ?_) ((once _ among).mono (by decide))
  exact once entry (List.mem_filter.mp member).1

/-! ### What keeps the background -/

theorem WaitsInBackgroundOnce.run {world : World} (once : world.WaitsInBackgroundOnce)
    (request : Request α) : (world.run request).2.WaitsInBackgroundOnce :=
  (once.start request).settle

theorem WaitsInBackgroundOnce.runAll {world : World} (once : world.WaitsInBackgroundOnce)
    (requests : List (Request α)) : (world.runAll requests).2.WaitsInBackgroundOnce :=
  (once.of_background_eq (background_startAll world requests)).settle

/-- A request that is dropped leaves the background as it found it. -/
theorem WaitsInBackgroundOnce.drop {world : World} (once : world.WaitsInBackgroundOnce)
    (task : Task α) : (world.drop task).WaitsInBackgroundOnce := by
  refine once.of_background_eq ?_
  obtain ⟨phase, lease⟩ := task
  cases phase <;> cases lease <;> rfl

theorem WaitsInBackgroundOnce.runFor {world : World} (once : world.WaitsInBackgroundOnce)
    (span : Duration) (request : Request α) :
    (world.runFor span request).2.WaitsInBackgroundOnce := by
  have settled : ((world.start request).2.settle (some (Instant.after world.clock span))
      [(world.start request).1]).1.WaitsInBackgroundOnce := (once.start request).settle
  unfold World.runFor
  dsimp only
  split
  · split
    · exact settled
    · exact settled.drop _
  · exact settled

theorem WaitsInBackgroundOnce.wakeBackground {world : World}
    (once : world.WaitsInBackgroundOnce) : world.wakeBackground.WaitsInBackgroundOnce := by
  unfold World.wakeBackground
  refine List.foldlRecOn _ _ once fun world once index _ => ?_
  split
  · exact once
  · split
    · exact once.take [] _
    · exact once

/-- Whoever starts to wait for a lock in the background waits there once. -/
theorem WaitsInBackgroundOnce.spawn {world : World} (once : world.WaitsInBackgroundOnce)
    (name key : String) : (world.spawn name key).WaitsInBackgroundOnce := by
  refine WaitsInBackgroundOnce.wakeBackground fun entry member => ?_
  rcases List.mem_append.mp member with other | new
  · exact once.start _ entry (List.mem_filter.mp other).1
  · rw [List.mem_singleton.mp new]
    exact waitsAtMost_advance world none (Request.waitsAtMost_hold key)

theorem WaitsInBackgroundOnce.join {world : World} (once : world.WaitsInBackgroundOnce)
    (name : String) : (world.join name).2.WaitsInBackgroundOnce := by
  unfold World.join
  split
  · exact once
  · exact WaitsInBackgroundOnce.settle fun entry member =>
      once entry (List.mem_filter.mp member).1

end ReleaseCatalog.World

namespace ReleaseCatalog.Machine

variable {world : World}

/-- Whatever is going on in the background, a request of a workflow comes to its end. -/
theorem isSome_run_amend (once : world.WaitsInBackgroundOnce) (machine : Machine)
    (identifiers : VersionIdentifiers) (update : Version) (options : AmendOptions) :
    (world.run (machine.amend identifiers update options)).1.isSome = true :=
  World.isSome_run once ((waitsAtMost_amend identifiers).mono (Nat.le_succ 3))

/-- Requests of a workflow that are run together all come to their ends. -/
theorem isSome_runAll_amend (once : world.WaitsInBackgroundOnce) (machine : Machine)
    (asked : List (VersionIdentifiers × Version × AmendOptions)) :
    ∀ result ∈ (world.runAll (asked.map fun (identifiers, update, options) =>
      machine.amend identifiers update options)).1, result.isSome = true := by
  refine World.isSome_runAll once fun request member => ?_
  obtain ⟨⟨identifiers, update, options⟩, -, rfl⟩ := List.mem_map.mp member
  exact (waitsAtMost_amend identifiers).mono (Nat.le_succ 3)

end ReleaseCatalog.Machine
