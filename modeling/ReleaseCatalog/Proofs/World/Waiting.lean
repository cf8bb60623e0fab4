/-
How often a task waits. The wait that it is in counts, and then those that the rest of its request
can come to. What carries a task forward, from one wait to the next, leaves fewer before it, and
does not touch the tasks in the background.
-/

import ReleaseCatalog.Proofs.Program.Waiting
import ReleaseCatalog.World.Task

namespace ReleaseCatalog

/-! ### Tasks that wait -/

namespace Task

variable {α : Type} {limit more : Nat}

/-- A task waits at most a number of times until it is finished, with the wait that it is in. -/
def WaitsAtMost (task : Task α) (limit : Nat) : Prop :=
  match task.phase with
  | .finished _ => True
  | .inLine _ _ _ next => 0 < limit ∧ ∀ answer, (next answer).WaitsAtMost (limit - 1)
  | .busy _ _ next => 0 < limit ∧ ∀ answer, (next answer).WaitsAtMost (limit - 1)
  | .busyBefore _ _ _ next => 0 < limit ∧ ∀ answer, (next answer).WaitsAtMost (limit - 1)

theorem WaitsAtMost.mono {task : Task α} (within : task.WaitsAtMost limit) (le : limit ≤ more) :
    task.WaitsAtMost more := by
  obtain ⟨phase, lease⟩ := task
  cases phase with
  | finished result => trivial
  | inLine | busy | busyBefore =>
    exact ⟨Nat.lt_of_lt_of_le within.1 le, fun answer =>
      (within.2 answer).mono (Nat.sub_le_sub_right le 1)⟩

/-- Tasks that wait at most a number of times in all. -/
def WaitAtMost : List (Task α) → Nat → Prop
  | [], _ => True
  | task :: rest, limit =>
    ∃ own others, task.WaitsAtMost own ∧ WaitAtMost rest others ∧ own + others ≤ limit

theorem WaitAtMost.mono {tasks : List (Task α)} (within : WaitAtMost tasks limit)
    (le : limit ≤ more) : WaitAtMost tasks more := by
  cases tasks with
  | nil => trivial
  | cons task rest =>
    obtain ⟨own, others, one, all, enough⟩ := within
    exact ⟨own, others, one, all, Nat.le_trans enough le⟩

theorem waitAtMost_of_forall {tasks : List (Task α)}
    (each : ∀ task ∈ tasks, task.WaitsAtMost limit) : WaitAtMost tasks (limit * tasks.length) := by
  induction tasks with
  | nil => trivial
  | cons task rest inductionHypothesis =>
    obtain ⟨first, later⟩ := List.forall_mem_cons.mp each
    refine ⟨limit, limit * rest.length, first, inductionHypothesis later, ?_⟩
    exact Nat.le_of_eq (by rw [List.length_cons, Nat.mul_succ, Nat.add_comm])

/-- When one of the tasks has fewer waits before it, so have all together. -/
theorem WaitAtMost.set {tasks : List (Task α)} {index : Nat} {task next : Task α}
    (within : WaitAtMost tasks limit) (found : tasks[index]? = some task)
    (fewer : ∀ own, task.WaitsAtMost own → ∃ less < own, next.WaitsAtMost less) :
    ∃ less < limit, WaitAtMost (tasks.set index next) less := by
  induction tasks generalizing index limit with
  | nil => cases found
  | cons first rest inductionHypothesis =>
    obtain ⟨own, others, one, all, enough⟩ := within
    cases index with
    | zero =>
      cases found
      obtain ⟨less, lt, goes⟩ := fewer own one
      exact ⟨less + others, by omega, less, others, goes, all, Nat.le_refl _⟩
    | succ index =>
      obtain ⟨less, lt, go⟩ := inductionHypothesis all found
      exact ⟨own + less, by omega, own, less, one, go, Nat.le_refl _⟩

/-- Without any wait left, every task is finished. -/
theorem WaitAtMost.finished {tasks : List (Task α)} (within : WaitAtMost tasks 0) :
    ∀ task ∈ tasks, task.result?.isSome = true := by
  induction tasks with
  | nil => exact List.forall_mem_nil _
  | cons task rest inductionHypothesis =>
    obtain ⟨own, others, one, all, enough⟩ := within
    refine List.forall_mem_cons.mpr ⟨?_, inductionHypothesis (all.mono (by omega))⟩
    obtain ⟨phase, lease⟩ := task
    have none : own = 0 := by omega
    cases phase with
    | finished result => rfl
    | inLine | busy | busyBefore => exact absurd none (Nat.ne_of_gt one.1)

end Task

namespace World

variable {α : Type} {limit : Nat}

/-! ### Going on -/

theorem takesTime_of_span {world : World} {action : Action}
    (takes : ¬world.span action = ⟨0⟩) : action.takesTime = true := by
  cases action with
  | store | now => exact absurd rfl takes
  | generate | pause => rfl

/-- A request that was carried forward has no more waits before it than it had. -/
theorem waitsAtMost_advance {request : Request α} (world : World) (lease : Option Lease)
    (within : request.WaitsAtMost limit) : (world.advance lease request).1.WaitsAtMost limit := by
  induction request generalizing world lease limit with
  | done result => trivial
  | step call next inductionHypothesis =>
    have goesOn (world : World) (lease : Option Lease) (answer : call.Answer) :
        (world.advance lease (next answer)).1.WaitsAtMost limit := by
      refine (inductionHypothesis answer world lease (within.2 answer)).mono ?_
      show (if call.mayWait then limit - 1 else limit) ≤ limit
      split <;> omega
    have waits (counted : call.mayWait = true) :
        0 < limit ∧ ∀ answer, Request.WaitsAtMost (next answer) (limit - 1) := by
      refine ⟨within.1 counted, fun answer => ?_⟩
      have rest := within.2 answer
      simp only [Program.allowance, if_pos counted] at rest
      exact rest
    cases call with
    | act action =>
      unfold advance
      split
      · exact goesOn _ _ _
      next takes => exact waits (takesTime_of_span takes)
    | actBefore expiry action =>
      unfold advance
      split
      · exact goesOn _ _ _
      next takes =>
        split
        · exact goesOn _ _ _
        · exact waits (takesTime_of_span takes)
    | instant => exact goesOn _ _ _
    | acquire kind key =>
      unfold advance
      split
      · exact goesOn _ _ _
      · split
        · exact goesOn _ _ _
        · exact goesOn _ _ _
        · exact waits rfl
    | hold key =>
      unfold advance
      split
      · exact goesOn _ _ _
      · exact goesOn _ _ _
      · exact waits rfl
    | release kind token => exact goesOn _ _ _

theorem background_act (world : World) (action : Action) :
    (world.act action).2.background = world.background := by
  cases action with
  | generate generator request => cases generator <;> rfl
  | store | pause | now => rfl

/-- What a request does until it has to wait does not touch the tasks in the background. -/
theorem background_advance {request : Request α} (world : World) (lease : Option Lease) :
    (world.advance lease request).2.background = world.background := by
  have lineUp {world after : World} {key : String} {arrival : Arrival}
      (reached : world.lineUp key = (arrival, after)) : after.background = world.background := by
    have same : (world.lineUp key).2.background = world.background := by
      unfold World.lineUp
      dsimp only
      split
      · rfl
      · split <;> rfl
    rwa [reached] at same
  induction request generalizing world lease with
  | done result => rfl
  | step call next inductionHypothesis =>
    cases call with
    | act action =>
      unfold advance
      split
      · exact (inductionHypothesis _ _ _).trans (background_act world action)
      · rfl
    | actBefore expiry action =>
      unfold advance
      split
      · exact (inductionHypothesis _ _ _).trans (background_act world action)
      · split
        · exact inductionHypothesis _ _ _
        · rfl
    | instant => exact inductionHypothesis _ _ _
    | acquire kind key =>
      unfold advance
      split
      · exact inductionHypothesis _ _ _
      next backend _ =>
        have same {arrival : Arrival} {after : World} :
            { world with backend := backend }.lineUp key = (arrival, after) →
              after.background = world.background := lineUp
        split
        next reached => exact (inductionHypothesis _ _ _).trans (same reached)
        next reached => exact (inductionHypothesis _ _ _).trans (same reached)
        next reached => exact same reached
    | hold key =>
      unfold advance
      split
      next reached => exact (inductionHypothesis _ _ _).trans (lineUp reached)
      next reached => exact (inductionHypothesis _ _ _).trans (lineUp reached)
      next reached => exact lineUp reached
    | release kind token => exact inductionHypothesis _ _ _

/-- A task that goes on has fewer waits before it. -/
theorem waitsAtMost_resume {task : Task α} (world : World) (unfinished : task.result? = none)
    (within : task.WaitsAtMost limit) :
    ∃ less < limit, (world.resume task).1.WaitsAtMost less := by
  obtain ⟨phase, lease⟩ := task
  cases phase with
  | finished result => cases unfinished
  | inLine attempt expiry kind next =>
    obtain ⟨positive, rest⟩ := within
    refine ⟨limit - 1, Nat.sub_one_lt_of_lt positive, ?_⟩
    unfold resume
    dsimp only
    split <;> exact waitsAtMost_advance _ _ (rest _)
  | busy ready action next =>
    obtain ⟨positive, rest⟩ := within
    exact ⟨limit - 1, Nat.sub_one_lt_of_lt positive, waitsAtMost_advance _ _ (rest _)⟩
  | busyBefore ready expiry action next =>
    obtain ⟨positive, rest⟩ := within
    refine ⟨limit - 1, Nat.sub_one_lt_of_lt positive, ?_⟩
    unfold resume
    dsimp only
    split <;> exact waitsAtMost_advance _ _ (rest _)

/-- A task that is carried forward has at most the waits before it that it had. -/
theorem waitsAtMost_resume_self {task : Task α} (world : World)
    (within : task.WaitsAtMost limit) : (world.resume task).1.WaitsAtMost limit := by
  obtain ⟨phase, lease⟩ := task
  cases phase with
  | finished result => trivial
  | inLine | busy | busyBefore =>
    obtain ⟨less, lt, fewer⟩ := waitsAtMost_resume world rfl within
    exact fewer.mono (Nat.le_of_lt lt)

theorem background_resume (world : World) (task : Task α) :
    (world.resume task).2.background = world.background := by
  obtain ⟨phase, lease⟩ := task
  cases phase with
  | finished result => rfl
  | inLine attempt expiry kind next =>
    unfold resume
    dsimp only
    split <;> exact background_advance _ _
  | busy ready action next =>
    exact (background_advance _ _).trans (background_act world action)
  | busyBefore ready expiry action next =>
    unfold resume
    dsimp only
    split
    · exact (background_advance _ _).trans (background_act world action)
    · exact background_advance _ _

end World

end ReleaseCatalog
