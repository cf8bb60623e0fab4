/-
Many requests at one site. Each goes on by itself, one call at a time, and they take turns in any
order. Taking a lock and giving it back are not one step each: an attempt looks up the gate, comes
to the line, and registers when it was let through, or gives up at any time before; a token is
struck, its gate passes on, and the gate is closed if nobody needs it. All of these can be
interleaved. Besides the requests others may call the store at any time.

A trace tells what happened: who obtained the lock and when, what the requests wrote, and what the
others did.
-/

import ReleaseCatalog.Proofs.Lock.Exclusion
import ReleaseCatalog.Proofs.Site.Basic

namespace ReleaseCatalog

variable {ι α : Type}

/-- What a call may be answered on a site where nothing fails, and the site that it leaves. What a
generator answers is left open, and what the running clock shows; so an action with an expiry may be
late, and is not begun then. -/
inductive Site.Serves (site : Site) : (call : Call) → call.Answer → Site → Prop
  | served (call : Call) : Serves site call (site.perform call).1 (site.perform call).2
  | generated (generator : Generator) (request : GenerateRequest) (answer : Result Unit) :
    Serves site (.act (.generate generator request)) answer site
  | inTime (expiry : Instant) {action : Action} {answer : action.Answer} {after : Site} :
    Serves site (.act action) answer after →
    Serves site (.actBefore expiry action) (some answer) after
  | late (expiry : Instant) (action : Action) : Serves site (.actBefore expiry action) none site
  | instant (reading : Instant) : Serves site .instant reading site

/-- An action makes its writes, and does not touch the locks. -/
theorem Site.Serves.made {site after : Site} {action : Action} {answer : action.Answer}
    (served : site.Serves (.act action) answer after) :
    after.catalog = site.catalog.writeAll (site.writes action) ∧
      after.journal = site.journal ++ site.writes action ∧ after.arena = site.arena := by
  cases served with
  | generated => exact ⟨rfl, (List.append_nil _).symm, rfl⟩
  | served =>
    cases action with
    | store call => exact ⟨Catalog.perform_eq_writeAll _ _ _, rfl, rfl⟩
    | generate | pause | now => exact ⟨rfl, (List.append_nil _).symm, rfl⟩

theorem Site.Serves.wellFiled {site after : Site} {action : Action} {answer : action.Answer}
    (served : site.Serves (.act action) answer after) (filed : site.catalog.WellFiled) :
    after.catalog.WellFiled := by
  cases served with
  | generated => exact filed
  | served =>
    cases action with
    | store call => exact filed.perform site.now call
    | generate | pause | now => exact filed

/-- How far a request has come among others. -/
inductive Progress (α : Type) where
  /-- It goes on with its next call, or is done. -/
  | ready (request : Request α)
  /-- It has looked up the gate of a key. -/
  | visiting (attempt : Arena.Attempt) (next : Result LockToken → Request α)
  /-- It has come to the line of the gate, and may have been let through. -/
  | waiting (attempt : Arena.Attempt) (next : Result LockToken → Request α)
  /-- Its token is struck, and the gate has not passed on yet. -/
  | struck (attempt : Arena.Attempt) (next : Unit → Request α)
  /-- The gate has passed on, and may have to be closed. -/
  | passing (key : String) (next : Unit → Request α)

/-- What a request has returned, if it is done and did not fail. -/
def Progress.value? : Progress (Result α) → Option α
  | .ready (.done (.ok value)) => some value
  | _ => none

theorem Progress.value?_eq_some_iff {progress : Progress (Result α)} {value : α} :
    progress.value? = some value ↔ progress = .ready (.done (.ok value)) := by
  constructor
  · intro returned
    unfold value? at returned
    split at returned <;> cases returned
    rfl
  · rintro rfl
    rfl

/-- Many requests at one site. -/
structure System (ι α : Type) where
  site : Site
  progress : ι → Progress α

/-- Something that happened at a site with many requests. -/
inductive Happening (ι : Type) where
  /-- A request has obtained its lock. -/
  | obtained (caller : ι)
  /-- A request has made a call at the site as it was, with these writes. -/
  | called (caller : ι) (site : Site) (writes : List Write)
  /-- Somebody else has called the store of the site as it was. -/
  | outside (call : StoreCall) (site : Site)

namespace Happening

/-- The writes of a happening. -/
def writes : Happening ι → List Write
  | obtained _ => []
  | called _ _ writes => writes
  | outside call site => call.writes site.now site.catalog

/-- Who has obtained the lock. -/
def obtainer? : Happening ι → Option ι
  | obtained caller => some caller
  | _ => none

/-- The call that somebody else has made, with what the calendar showed. -/
def outsider? : Happening ι → Option (StoreCall × Timestamp)
  | outside call site => some (call, site.now)
  | _ => none

/-- Where no call of others was made, none is found. -/
theorem not_outside_of_alone {trace : List (Happening ι)}
    (alone : trace.filterMap outsider? = []) (call : StoreCall) (site : Site) :
    outside call site ∉ trace := by
  intro member
  have found : (call, site.now) ∈ trace.filterMap outsider? :=
    List.mem_filterMap.mpr ⟨_, member, rfl⟩
  rw [alone] at found
  cases found

/-- Who has put a version into the slot, and what the calendar showed. -/
def writer? (slot : VersionKey) : Happening ι → Option (ι × Timestamp)
  | called caller site writes =>
    if Write.documentsAt slot writes = [] then none else some (caller, site.now)
  | _ => none

end Happening

/-- Whether the call takes a lock or gives one back. -/
def Call.isForLock : Call → Bool
  | .acquire _ _ | .hold _ | .release _ _ => true
  | _ => false

namespace System

variable [DecidableEq ι]

/-- The system when one of its requests has gone on. -/
def after (system : System ι α) (caller : ι) (site : Site) (progress : Progress α) :
    System ι α where
  site := site
  progress := Function.update system.progress caller progress

/-- The system when one of its requests has made a small step at a gate. -/
def afterLock (system : System ι α) (caller : ι) (arena : Arena) (progress : Progress α) :
    System ι α :=
  system.after caller (system.site.withArena arena) progress

/-- What can happen next, where calls other than those for locks are answered in a given way. -/
inductive Step (answers : Site → (call : Call) → call.Answer → Site → Prop) :
    System ι α → List (Happening ι) → System ι α → Prop
  | call {system : System ι α} {caller : ι} {call : Call} {next : call.Answer → Request α}
      {answer : call.Answer} {site : Site} {writes : List Write} :
    system.progress caller = .ready (.step call next) → call.isForLock = false →
      answers system.site call answer site → site.journal = system.site.journal ++ writes →
      Step answers system [.called caller system.site writes]
        (system.after caller site (.ready (next answer)))
  | enter {system : System ι α} {caller : ι} {kind : LockKind} {key : String}
      {next : Result LockToken → Request α} {id : GateId} {arena : Arena} :
    system.progress caller = .ready (.step (.acquire kind key) next) →
      { system.site.arena with nextToken := system.site.arena.nextToken + 1 }.enter key
        system.site.arena.nextToken = (id, arena) →
      Step answers system []
        (system.afterLock caller arena (.visiting ⟨key, id, system.site.arena.nextToken⟩ next))
  | enterToHold {system : System ι α} {caller : ι} {key : String}
      {next : Result LockToken → Request α} {id : GateId} {arena : Arena} :
    system.progress caller = .ready (.step (.hold key) next) →
      { system.site.arena with nextToken := system.site.arena.nextToken + 1 }.enter key
        system.site.arena.nextToken = (id, arena) →
      Step answers system []
        (system.afterLock caller arena (.visiting ⟨key, id, system.site.arena.nextToken⟩ next))
  | lineUp {system : System ι α} {caller : ι} {attempt : Arena.Attempt}
      {next : Result LockToken → Request α} :
    system.progress caller = .visiting attempt next →
      Step answers system []
        (system.afterLock caller (system.site.arena.lineUp attempt.gate attempt.token)
          (.waiting attempt next))
  | register {system : System ι α} {caller : ι} {attempt : Arena.Attempt}
      {next : Result LockToken → Request α} :
    system.progress caller = .waiting attempt next →
      system.site.arena.isThrough attempt = true →
      Step answers system [.obtained caller]
        (system.afterLock caller (system.site.arena.claim attempt)
          (.ready (next (.ok attempt.token))))
  | giveUp {system : System ι α} {caller : ι} {attempt : Arena.Attempt}
      {next : Result LockToken → Request α} :
    system.progress caller = .waiting attempt next →
      Step answers system []
        (system.afterLock caller (system.site.arena.withdraw attempt)
          (.ready (next (.error (system.site.arena.timedOut attempt.key)))))
  | strike {system : System ι α} {caller : ι} {kind : LockKind} {token : LockToken}
      {next : Unit → Request α} {holding : Holding} :
    system.progress caller = .ready (.step (.release kind token) next) →
      system.site.arena.held.get? token = some holding →
      Step answers system []
        (system.afterLock caller (system.site.arena.strike token)
          (.struck ⟨holding.key, holding.gate, token⟩ next))
  | refused {system : System ι α} {caller : ι} {kind : LockKind} {token : LockToken}
      {next : Unit → Request α} :
    system.progress caller = .ready (.step (.release kind token) next) →
      system.site.arena.held.get? token = none →
      Step answers system [] (system.after caller system.site (.ready (next ())))
  | passOn {system : System ι α} {caller : ι} {attempt : Arena.Attempt}
      {next : Unit → Request α} :
    system.progress caller = .struck attempt next →
      Step answers system []
        (system.afterLock caller (system.site.arena.passOn attempt.gate)
          (.passing attempt.key next))
  | prune {system : System ι α} {caller : ι} {key : String} {next : Unit → Request α} :
    system.progress caller = .passing key next →
      Step answers system []
        (system.afterLock caller (system.site.arena.prune key) (.ready (next ())))
  | outside (system : System ι α) (call : StoreCall) :
    Step answers system [.outside call system.site]
      ⟨(system.site.store call).2, system.progress⟩

/-- Whatever happens to a system, one step after another. -/
inductive Runs (answers : Site → (call : Call) → call.Answer → Site → Prop)
    (start : System ι α) : List (Happening ι) → System ι α → Prop
  | begun : Runs answers start [] start
  | step {trace happenings : List (Happening ι)} {middle last : System ι α} :
    Runs answers start trace middle → Step answers middle happenings last →
      Runs answers start (trace ++ happenings) last

variable {answers : Site → (call : Call) → call.Answer → Site → Prop}

theorem Runs.append {start middle last : System ι α} {earlier later : List (Happening ι)}
    (run : Runs answers start earlier middle) (rest : Runs answers middle later last) :
    Runs answers start (earlier ++ later) last := by
  induction rest with
  | begun => rwa [List.append_nil]
  | step _ step inductionHypothesis =>
    rw [← List.append_assoc]
    exact inductionHypothesis.step step

/-- The journal of a site has the writes of all that happened. -/
theorem Step.journal {system last : System ι α} {happenings : List (Happening ι)}
    (step : Step answers system happenings last) :
    last.site.journal = system.site.journal ++ happenings.flatMap Happening.writes := by
  cases step with
  | call _ _ _ recorded => simpa [after, Happening.writes] using recorded
  | outside call => simp [Site.store, Happening.writes]
  | enter | enterToHold | lineUp | register | giveUp | strike | refused | passOn | prune =>
    exact (List.append_nil _).symm

theorem Runs.journal {start last : System ι α} {trace : List (Happening ι)}
    (run : Runs answers start trace last) :
    last.site.journal = start.site.journal ++ trace.flatMap Happening.writes := by
  induction run with
  | begun => simp
  | step _ step inductionHypothesis =>
    rw [step.journal, inductionHypothesis, List.flatMap_append, List.append_assoc]

/-! ### One request at a time -/

@[simp]
theorem after_progress_self (system : System ι α) (caller : ι) (site : Site)
    (progress : Progress α) : (system.after caller site progress).progress caller = progress :=
  Function.update_self ..

theorem after_progress_other (system : System ι α) {caller other : ι} (differ : other ≠ caller)
    (site : Site) (progress : Progress α) :
    (system.after caller site progress).progress other = system.progress other :=
  Function.update_of_ne differ ..

@[simp]
theorem after_site (system : System ι α) (caller : ι) (site : Site) (progress : Progress α) :
    (system.after caller site progress).site = site := rfl

@[simp]
theorem after_after (system : System ι α) (caller : ι) (site other : Site)
    (progress later : Progress α) :
    (system.after caller site progress).after caller other later =
      system.after caller other later := by
  simp [after]

theorem after_of_progress_eq {system : System ι α} {caller : ι} {progress : Progress α}
    (here : system.progress caller = progress) :
    system.after caller system.site progress = system := by
  rw [← here, after, Function.update_eq_self]

/-- Coming to the line of a key without a break is a run. -/
theorem runs_request {system : System ι α} {caller : ι} {key : String}
    {next : Result LockToken → Request α}
    (enter : ∀ id arena,
      { system.site.arena with nextToken := system.site.arena.nextToken + 1 }.enter key
        system.site.arena.nextToken = (id, arena) →
      Step answers system [] (system.afterLock caller arena
        (.visiting ⟨key, id, system.site.arena.nextToken⟩ next))) :
    Runs answers system [] (system.afterLock caller (system.site.arena.request key).2
      (.waiting (system.site.arena.request key).1 next)) := by
  obtain ⟨id, arena, entry⟩ : ∃ id arena,
      { system.site.arena with nextToken := system.site.arena.nextToken + 1 }.enter key
        system.site.arena.nextToken = (id, arena) := ⟨_, _, rfl⟩
  have lined := (Runs.begun.step (enter id arena entry)).step
    (Step.lineUp (after_progress_self ..))
  rw [Arena.request_eq]
  simpa [afterLock, entry] using lined

/-- An attempt at a lock without a break is a run. -/
theorem exists_runs_lock {system : System ι α} {caller : ι} {key : String}
    {next : Result LockToken → Request α}
    (enter : ∀ id arena,
      { system.site.arena with nextToken := system.site.arena.nextToken + 1 }.enter key
        system.site.arena.nextToken = (id, arena) →
      Step answers system [] (system.afterLock caller arena
        (.visiting ⟨key, id, system.site.arena.nextToken⟩ next))) :
    ∃ trace, trace.filterMap Happening.outsider? = [] ∧
      Runs answers system trace (system.after caller (system.site.lock key).2
        (.ready (next (system.site.lock key).1))) := by
  have lined := runs_request enter
  by_cases through : (system.site.arena.request key).2.isThrough
      (system.site.arena.request key).1 = true
  · rw [Site.lock_of_through through]
    exact ⟨_, rfl,
      by simpa [afterLock] using lined.step (.register (after_progress_self ..) through)⟩
  · rw [Site.lock_of_not_through through]
    exact ⟨_, rfl, by simpa [afterLock] using lined.step (.giveUp (after_progress_self ..))⟩

/-- Giving a token back without a break is a run. -/
theorem exists_runs_unlock {system : System ι α} {caller : ι} {kind : LockKind}
    {token : LockToken} {next : Unit → Request α}
    (here : system.progress caller = .ready (.step (.release kind token) next)) :
    ∃ trace, trace.filterMap Happening.outsider? = [] ∧
      Runs answers system trace
        (system.after caller (system.site.unlock token) (.ready (next ()))) := by
  unfold Site.unlock Arena.release
  cases held : system.site.arena.held.get? token with
  | none => exact ⟨_, rfl, Runs.begun.step (.refused here held)⟩
  | some holding =>
    have struck : Runs answers system [] _ := Runs.begun.step (.strike here held)
    have passed := struck.step (.passOn (after_progress_self ..))
    have pruned := passed.step (.prune (after_progress_self ..))
    simp only [afterLock, after_after, after_site, Site.withArena_withArena, Site.arena_withArena]
      at pruned
    exact ⟨_, rfl, pruned⟩

/-- The next call of a request at a site that serves, without a break, is a run. -/
theorem exists_runs_call
    (served : ∀ site call, answers site call (site.perform call).1 (site.perform call).2)
    {system : System ι α} {caller : ι} {call : Call} {next : call.Answer → Request α}
    (here : system.progress caller = .ready (.step call next)) :
    ∃ trace, trace.filterMap Happening.outsider? = [] ∧
      Runs answers system trace (system.after caller (system.site.perform call).2
        (.ready (next (system.site.perform call).1))) := by
  by_cases plain : call.isForLock = false
  · obtain ⟨writes, -, -, recorded⟩ := (system.site.answers_perform call).made
    exact ⟨_, rfl, Runs.begun.step (.call here plain (served system.site call) recorded)⟩
  · cases call with
    | act | actBefore | instant => exact absurd rfl plain
    | acquire kind key => exact exists_runs_lock fun id arena => .enter here
    | hold key => exact exists_runs_lock fun id arena => .enterToHold here
    | release kind token => exact exists_runs_unlock here

/-- What a request does at a site that serves, with nobody else there, is a run of the system. -/
theorem exists_runs_run
    (served : ∀ site call, answers site call (site.perform call).1 (site.perform call).2)
    {system : System ι α} {caller : ι} {request : Request α}
    (here : system.progress caller = .ready request) :
    ∃ trace, trace.filterMap Happening.outsider? = [] ∧
      Runs answers system trace
        (system.after caller (request.run Site.perform system.site).2
          (.ready (.done (request.run Site.perform system.site).1))) := by
  induction request generalizing system with
  | done result =>
    exact ⟨[], rfl, by simpa [Program.run, after_of_progress_eq here] using .begun⟩
  | step call next inductionHypothesis =>
    obtain ⟨earlier, alone, one⟩ := exists_runs_call served here
    obtain ⟨later, aloneStill, rest⟩ := inductionHypothesis (system.site.perform call).1
      (system.after_progress_self caller _ _)
    rw [after_after] at rest
    refine ⟨earlier ++ later, ?_, one.append rest⟩
    rw [List.filterMap_append, alone, aloneStill, List.append_nil]

/-- The system when a request has made its next call without a break, at a site that serves. -/
def goOn (system : System ι α) (caller : ι) : System ι α :=
  match system.progress caller with
  | .ready (.step call next) =>
    system.after caller (system.site.perform call).2
      (.ready (next (system.site.perform call).1))
  | _ => system

/-- Requests that take turns call by call make a run of the system. -/
theorem exists_runs_goOn
    (served : ∀ site call, answers site call (site.perform call).1 (site.perform call).2)
    (system : System ι α) (turns : List ι) :
    ∃ trace, trace.filterMap Happening.outsider? = [] ∧
      Runs answers system trace (turns.foldl goOn system) := by
  induction turns generalizing system with
  | nil => exact ⟨[], rfl, .begun⟩
  | cons caller rest inductionHypothesis =>
    have one : ∃ trace, trace.filterMap Happening.outsider? = [] ∧
        Runs answers system trace (system.goOn caller) := by
      unfold goOn
      split
      · exact exists_runs_call served ‹_›
      · exact ⟨[], rfl, .begun⟩
    obtain ⟨earlier, alone, first⟩ := one
    obtain ⟨later, aloneStill, run⟩ := inductionHypothesis (system.goOn caller)
    refine ⟨earlier ++ later, ?_, first.append run⟩
    rw [List.filterMap_append, alone, aloneStill, List.append_nil]

end System

end ReleaseCatalog
