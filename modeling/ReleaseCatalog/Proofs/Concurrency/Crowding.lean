/-
Requests as a crowd at the arena of their site. Of a request, a crowd knows only what it is in the
middle of when it asks for a lock or gives one back; all other calls leave the arena alone. So
whatever happens to a system, its requests make a run of a crowd, and what is known of the locks of
every crowd is known of those of the site: who is at which gate, and that one token is at one gate.
-/

import ReleaseCatalog.Proofs.Concurrency.Disturbance
import ReleaseCatalog.Proofs.Lock.Occupancy

namespace ReleaseCatalog

variable {ι α : Type}

namespace Progress

/-- The errand is what the request is in the middle of. -/
def Matches : Progress α → Errand → Prop
  | ready _, errand => errand = .idle
  | visiting attempt _, errand => errand = .visiting attempt
  | waiting attempt _, errand => errand = .waiting attempt
  | struck attempt _, errand => errand = .struck attempt
  | passing key _, errand => ∃ token, errand = .passing key token

/-- The attempt or the token with which a request is at a gate. -/
def attempt? : Progress α → Option Arena.Attempt
  | visiting attempt _ | waiting attempt _ | struck attempt _ => some attempt
  | ready _ | passing _ _ => none

/-- A request is at a gate exactly when its task is. -/
theorem Matches.attempt?_iff {progress : Progress α} {errand : Errand}
    (does : progress.Matches errand) {token : LockToken} {key : String} {id : GateId} :
    progress.attempt? = some ⟨key, id, token⟩ ↔
      ∃ standing, errand.presence? = some (token, ⟨standing, key, id⟩) := by
  cases progress with
  | ready =>
    obtain rfl : errand = .idle := does
    simp [attempt?, Errand.presence?]
  | visiting attempt | waiting attempt | struck attempt =>
    obtain rfl := does
    obtain ⟨own, gate, number⟩ := attempt
    simp [attempt?, Errand.presence?, and_comm, and_left_comm, and_assoc]
  | passing key =>
    obtain ⟨token, rfl⟩ := does
    simp [attempt?, Errand.presence?]

end Progress

namespace System

variable [DecidableEq ι] {system start last : System ι α} {crowd : Crowd ι} {caller : ι}
  {happenings trace : List (Happening ι)}

/-- The crowd is at the arena of the site, and each task does what the request does. -/
structure Follows (system : System ι α) (crowd : Crowd ι) : Prop where
  arena : crowd.arena = system.site.arena
  errand (caller : ι) : (system.progress caller).Matches (crowd.errand caller)

omit [DecidableEq ι] in
/-- What the task of a request does. -/
theorem Follows.does (follows : system.Follows crowd) {progress : Progress α}
    (here : system.progress caller = progress) : progress.Matches (crowd.errand caller) :=
  here ▸ follows.errand caller

/-- Both go on with what one request does. -/
theorem Follows.after (follows : system.Follows crowd) {site : Site} {progress : Progress α}
    {errand : Errand} (does : progress.Matches errand) :
    (system.after caller site progress).Follows (crowd.after caller site.arena errand) := by
  refine ⟨rfl, fun other => ?_⟩
  by_cases same : other = caller
  · rw [same, after_progress_self, Crowd.errand_after_self]
    exact does
  · rw [after_progress_other _ same, Crowd.errand_after_other _ same]
    exact follows.errand other

/-- What a request does away from the locks is nothing to the crowd. -/
theorem Follows.aside (follows : system.Follows crowd) {request later : Request α} {site : Site}
    (here : system.progress caller = .ready request) (away : site.arena = system.site.arena) :
    (system.after caller site (.ready later)).Follows crowd := by
  refine ⟨follows.arena.trans away.symm, fun other => ?_⟩
  by_cases same : other = caller
  · rw [same, after_progress_self]
    show crowd.errand caller = .idle
    exact follows.does here
  · rw [after_progress_other _ same]
    exact follows.errand other

/-- A request that asks for the lock of a key comes to the gate. -/
theorem Follows.enter (follows : system.Follows crowd) {begun : Crowd ι} {told : List (Deed ι)}
    (run : Crowd.Runs begun told crowd) {request : Request α}
    {next : Result LockToken → Request α} {key : String} {id : GateId} {arena : Arena}
    (here : system.progress caller = .ready request)
    (entry : { system.site.arena with nextToken := system.site.arena.nextToken + 1 }.enter key
      system.site.arena.nextToken = (id, arena)) :
    ∃ deeds later, Crowd.Runs begun deeds later ∧
      (system.afterLock caller arena
        (.visiting ⟨key, id, system.site.arena.nextToken⟩ next)).Follows later := by
  have enters := (run.step (.ask key (follows.does here))).step
    (.enter (Crowd.errand_after_self ..))
  simp only [Crowd.after_after, Crowd.arena_after, follows.arena, entry] at enters
  exact ⟨_, _, enters, follows.after rfl⟩

/-- Whatever happens next to a system, a crowd that has come as far can do the same. -/
theorem Follows.step (follows : system.Follows crowd) {begun : Crowd ι} {told : List (Deed ι)}
    (run : Crowd.Runs begun told crowd) (step : DisturbedStep system happenings last) :
    ∃ deeds next, Crowd.Runs begun deeds next ∧ last.Follows next := by
  obtain ⟨arena, errand⟩ := crowd
  obtain rfl : arena = system.site.arena := follows.arena
  cases step with
  | notAcquired error here => exact ⟨_, _, run, follows.aside here rfl⟩
  | step step =>
    cases step with
    | call here plain answered => exact ⟨_, _, run, follows.aside here (answered.arena plain)⟩
    | outside call => exact ⟨_, _, run, ⟨rfl, follows.errand⟩⟩
    | refused here => exact ⟨_, _, run, follows.aside here rfl⟩
    | enter here entry => exact follows.enter run here entry
    | enterToHold here entry => exact follows.enter run here entry
    | lineUp here => exact ⟨_, _, run.step (.lineUp (follows.does here)), follows.after rfl⟩
    | register here through =>
      exact ⟨_, _, run.step (.register (follows.does here) through), follows.after rfl⟩
    | giveUp here =>
      exact ⟨_, _, run.step (.giveUp (.inr (follows.does here))), follows.after rfl⟩
    | strike here held =>
      have struck := (run.step (.giveBack _ (follows.does here))).step
        (.strike (Crowd.errand_after_self ..) held)
      rw [Crowd.after_after] at struck
      exact ⟨_, _, struck, follows.after rfl⟩
    | passOn here =>
      exact ⟨_, _, run.step (.passOn (follows.does here)), follows.after ⟨_, rfl⟩⟩
    | prune here =>
      obtain ⟨token, passing⟩ := follows.does here
      exact ⟨_, _, run.step (.prune passing), follows.after rfl⟩

/-- Whatever happens to a system, a crowd does the same. -/
theorem DisturbedRuns.exists_crowd (run : DisturbedRuns start trace last) {begun : Crowd ι}
    (follows : start.Follows begun) :
    ∃ deeds crowd, Crowd.Runs begun deeds crowd ∧ last.Follows crowd := by
  induction run with
  | begun => exact ⟨[], begun, .begun, follows⟩
  | step _ step inductionHypothesis =>
    obtain ⟨told, crowd, earlier, followed⟩ := inductionHypothesis
    exact followed.step earlier step

/-! ### Who is at a gate -/

/-- The token is at the gate for the lock of the key: a request is in the middle of a call with it,
or the lock is held under it. -/
def At (system : System ι α) (token : LockToken) (key : String) (id : GateId) : Prop :=
  (∃ caller, (system.progress caller).attempt? = some ⟨key, id, token⟩) ∨
    system.site.arena.held.get? token = some ⟨key, id⟩

omit [DecidableEq ι] in
theorem Follows.at_iff (follows : system.Follows crowd) {token : LockToken} {key : String}
    {id : GateId} : crowd.At token key id ↔ system.At token key id := by
  unfold Crowd.At At
  rw [follows.arena]
  exact or_congr (exists_congr fun caller => (follows.errand caller).attempt?_iff.symm) Iff.rfl

/-- How the gates of a site are kept. -/
structure Gated (system : System ι α) : Prop where
  /-- Whoever is at a gate for a key is at the one that the next to come finds. -/
  opened {token : LockToken} {key : String} {id : GateId} : system.At token key id →
    system.site.arena.gateOf.get? key = some id
  /-- No two keys share a gate. -/
  apart {key other : String} {id : GateId} : system.site.arena.gateOf.get? key = some id →
    system.site.arena.gateOf.get? other = some id → key = other
  /-- A gate has no tokens but those that are there for its key. -/
  within {key : String} {id : GateId} {token : LockToken} :
    system.site.arena.gateOf.get? key = some id → token ∈ (system.site.arena.gate id).tokens →
      system.At token key id

/-- Whatever requests do at a site that nobody has come to before, its gates are kept. -/
theorem DisturbedRuns.gated (run : DisturbedRuns start trace last)
    (ready : ∀ caller, ∃ request, start.progress caller = .ready request)
    (unopened : ∀ key, start.site.arena.gateOf.get? key = none)
    (unheld : ∀ token, start.site.arena.held.get? token = none) : last.Gated := by
  have follows : start.Follows ⟨start.site.arena, fun _ => .idle⟩ := by
    refine ⟨rfl, fun caller => ?_⟩
    obtain ⟨request, here⟩ := ready caller
    rw [here]
    rfl
  obtain ⟨deeds, crowd, crowded, followed⟩ := run.exists_crowd follows
  have idle : Crowd.IsIdle ⟨start.site.arena, fun _ : ι => .idle⟩ :=
    ⟨fun _ => rfl, unopened, unheld⟩
  obtain ⟨present, agrees, -⟩ := crowded.exists_agrees idle
  have occupied := crowded.occupied idle
  refine ⟨fun here => ?_, ?_, ?_⟩
  · exact followed.arena ▸ agrees.opened_of_at (followed.at_iff.mpr here)
  · exact followed.arena ▸ agrees.sound.apart
  · intro key id token opened member
    rw [← followed.arena] at opened member
    exact followed.at_iff.mp (occupied.within opened member)

end System

end ReleaseCatalog
