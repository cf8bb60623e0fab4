/-
Many tasks at one arena. Each asks for locks and gives tokens back, any token and as often as it
likes, and they take turns after every small step: after the lookup of a gate, in line, when they
were let through, when a token was struck, and when its gate has passed on. An attempt may give up
at any time before it has registered.

The book of the tokens under way says where each task is in the middle of its call, and each held
token stands in it as well. Every step keeps it so.
-/

import ReleaseCatalog.Proofs.Lock.Exclusion

namespace ReleaseCatalog

open Function (update)

variable {ι : Type}

/-- What a task is in the middle of. -/
inductive Errand where
  | idle
  /-- It asks for the lock of a key and has not looked up the gate yet. -/
  | asking (key : String)
  /-- It has looked up the gate. -/
  | visiting (attempt : Arena.Attempt)
  /-- It has come to the line of the gate, and may have been let through. -/
  | waiting (attempt : Arena.Attempt)
  /-- It gives a token back that has not been looked up yet. -/
  | returning (token : LockToken)
  /-- It has struck the token, and the gate has not passed on yet. -/
  | struck (attempt : Arena.Attempt)
  /-- The gate has passed on, and may have to be closed. -/
  | passing (key : String) (token : LockToken)

namespace Errand

/-- The token of an errand, and how it stands at its gate. -/
def presence? : Errand → Option (LockToken × Presence)
  | visiting attempt => some (attempt.token, ⟨.visiting, attempt.key, attempt.gate⟩)
  | waiting attempt => some (attempt.token, ⟨.waiting, attempt.key, attempt.gate⟩)
  | struck attempt => some (attempt.token, ⟨.struck, attempt.key, attempt.gate⟩)
  | idle | asking _ | returning _ | passing _ _ => none

/-- The token that an errand tries to register. -/
def trying? : Errand → Option LockToken
  | visiting attempt | waiting attempt => some attempt.token
  | _ => none

/-- The token that an errand has struck and is giving back. -/
def leaving? : Errand → Option LockToken
  | struck attempt => some attempt.token
  | passing _ token => some token
  | _ => none

/-- A token that is not registered yet stands at a gate. -/
theorem presence?_of_trying? {errand : Errand} {token : LockToken}
    (found : errand.trying? = some token) :
    ∃ presence, errand.presence? = some (token, presence) := by
  cases errand with
  | visiting | waiting =>
    cases found
    exact ⟨_, rfl⟩
  | idle | asking | returning | struck | passing => cases found

end Errand

/-- Many tasks at one arena. -/
structure Crowd (ι : Type) where
  arena : Arena
  errand : ι → Errand

/-- What tasks have done. -/
inductive Deed (ι : Type) where
  /-- A call for a lock has returned its token. -/
  | obtained (task : ι) (token : LockToken)
  /-- A call for a lock has given up. -/
  | timedOut (task : ι) (key : String)
  /-- A call that gives a token back has taken it out of the register. -/
  | struck (task : ι) (token : LockToken)
  /-- A call that gives a token back has returned. -/
  | answered (task : ι) (token : LockToken) (answer : Bool)

namespace Deed

/-- The tokens that calls have returned, one after another. -/
def obtainedTokens (deeds : List (Deed ι)) : List LockToken :=
  deeds.filterMap fun
    | obtained _ token => some token
    | _ => none

/-- The tokens that were taken out of the register. -/
def struckTokens (deeds : List (Deed ι)) : List LockToken :=
  deeds.filterMap fun
    | struck _ token => some token
    | _ => none

/-- The tokens for which a call that gives them back has answered yes. -/
def returnedTokens (deeds : List (Deed ι)) : List LockToken :=
  deeds.filterMap fun
    | answered _ token true => some token
    | _ => none

/-- What a call that gives a token back does, by its answer. -/
def ofRelease (task : ι) (token : LockToken) (answer : Bool) : List (Deed ι) :=
  if answer then [struck task token, answered task token true]
  else [answered task token false]

variable (trace deeds : List (Deed ι))

@[simp]
theorem obtainedTokens_append :
    obtainedTokens (trace ++ deeds) = obtainedTokens trace ++ obtainedTokens deeds :=
  List.filterMap_append

@[simp]
theorem struckTokens_append :
    struckTokens (trace ++ deeds) = struckTokens trace ++ struckTokens deeds :=
  List.filterMap_append

@[simp]
theorem returnedTokens_append :
    returnedTokens (trace ++ deeds) = returnedTokens trace ++ returnedTokens deeds :=
  List.filterMap_append

end Deed

namespace Crowd

variable [DecidableEq ι]

/-- The crowd when one task has made a step. -/
def after (crowd : Crowd ι) (task : ι) (arena : Arena) (errand : Errand) : Crowd ι where
  arena := arena
  errand := update crowd.errand task errand

@[simp]
theorem errand_after_self (crowd : Crowd ι) (task : ι) (arena : Arena) (errand : Errand) :
    (crowd.after task arena errand).errand task = errand :=
  Function.update_self ..

theorem errand_after_other (crowd : Crowd ι) {task other : ι} (differ : other ≠ task)
    (arena : Arena) (errand : Errand) :
    (crowd.after task arena errand).errand other = crowd.errand other :=
  Function.update_of_ne differ ..

/-- The small steps of a task. -/
inductive Step (task : ι) : Crowd ι → List (Deed ι) → Crowd ι → Prop
  | ask {crowd : Crowd ι} (key : String) : crowd.errand task = .idle →
    Step task crowd [] (crowd.after task crowd.arena (.asking key))
  | enter {crowd : Crowd ι} {key : String} : crowd.errand task = .asking key →
    Step task crowd []
      (crowd.after task
        ({ crowd.arena with nextToken := crowd.arena.nextToken + 1 }.enter key
          crowd.arena.nextToken).2
        (.visiting ⟨key,
          ({ crowd.arena with nextToken := crowd.arena.nextToken + 1 }.enter key
            crowd.arena.nextToken).1,
          crowd.arena.nextToken⟩))
  | lineUp {crowd : Crowd ι} {attempt : Arena.Attempt} : crowd.errand task = .visiting attempt →
    Step task crowd []
      (crowd.after task (crowd.arena.lineUp attempt.gate attempt.token) (.waiting attempt))
  | register {crowd : Crowd ι} {attempt : Arena.Attempt} : crowd.errand task = .waiting attempt →
    crowd.arena.isThrough attempt = true →
    Step task crowd [.obtained task attempt.token]
      (crowd.after task (crowd.arena.claim attempt) .idle)
  | giveUp {crowd : Crowd ι} {attempt : Arena.Attempt} :
    crowd.errand task = .visiting attempt ∨ crowd.errand task = .waiting attempt →
    Step task crowd [.timedOut task attempt.key]
      (crowd.after task (crowd.arena.withdraw attempt) .idle)
  | giveBack {crowd : Crowd ι} (token : LockToken) : crowd.errand task = .idle →
    Step task crowd [] (crowd.after task crowd.arena (.returning token))
  | refuse {crowd : Crowd ι} {token : LockToken} : crowd.errand task = .returning token →
    crowd.arena.held.get? token = none →
    Step task crowd [.answered task token false] (crowd.after task crowd.arena .idle)
  | strike {crowd : Crowd ι} {token : LockToken} {holding : Holding} :
    crowd.errand task = .returning token → crowd.arena.held.get? token = some holding →
    Step task crowd [.struck task token]
      (crowd.after task (crowd.arena.strike token)
        (.struck ⟨holding.key, holding.gate, token⟩))
  | passOn {crowd : Crowd ι} {attempt : Arena.Attempt} : crowd.errand task = .struck attempt →
    Step task crowd []
      (crowd.after task (crowd.arena.passOn attempt.gate) (.passing attempt.key attempt.token))
  | prune {crowd : Crowd ι} {key : String} {token : LockToken} :
    crowd.errand task = .passing key token →
    Step task crowd [.answered task token true]
      (crowd.after task (crowd.arena.prune key) .idle)

/-- The small steps of all tasks, in any order. -/
inductive Runs (start : Crowd ι) : List (Deed ι) → Crowd ι → Prop
  | begun : Runs start [] start
  | step {task : ι} {trace deeds : List (Deed ι)} {middle last : Crowd ι} :
    Runs start trace middle → Step task middle deeds last → Runs start (trace ++ deeds) last

/-- Nobody is at the arena, and no lock is held. -/
structure IsIdle (crowd : Crowd ι) : Prop where
  errand (task : ι) : crowd.errand task = .idle
  gateOf (key : String) : crowd.arena.gateOf.get? key = none
  held (token : LockToken) : crowd.arena.held.get? token = none

/-- Somebody needs the gate for the lock of the key: a task that has looked it up, stands in line,
was let through or has not passed on yet, or whoever holds the lock. -/
def Uses (crowd : Crowd ι) (key : String) (gate : GateId) : Prop :=
  (∃ task token standing, (crowd.errand task).presence? = some (token, ⟨standing, key, gate⟩)) ∨
    ∃ token, crowd.arena.held.get? token = some ⟨key, gate⟩

variable {start crowd last : Crowd ι} {present : LockToken → Option Presence} {task : ι}
  {trace deeds : List (Deed ι)}

/-! ### Calls without a break -/

@[simp]
theorem after_after (crowd : Crowd ι) (task : ι) (arena other : Arena) (errand later : Errand) :
    (crowd.after task arena errand).after task other later = crowd.after task other later := by
  simp [after]

@[simp]
theorem arena_after (crowd : Crowd ι) (task : ι) (arena : Arena) (errand : Errand) :
    (crowd.after task arena errand).arena = arena := rfl

/-- A task that nothing interrupts comes to the line of a key as the arena has it. -/
theorem Runs.request (run : Runs start trace crowd) (task : ι)
    (here : crowd.errand task = .idle) (key : String) :
    Runs start trace (crowd.after task (crowd.arena.request key).2
      (.waiting (crowd.arena.request key).1)) := by
  have asks := run.step (.ask key here)
  have enters := asks.step (.enter (errand_after_self ..))
  have lined := enters.step (.lineUp (errand_after_self ..))
  rw [Arena.request_eq]
  simpa using lined

/-- A task that nothing interrupts registers when it was let through. -/
theorem Runs.claim (run : Runs start trace crowd) {attempt : Arena.Attempt}
    (here : crowd.errand task = .waiting attempt) (through : crowd.arena.isThrough attempt = true) :
    Runs start (trace ++ [.obtained task attempt.token])
      (crowd.after task (crowd.arena.claim attempt) .idle) :=
  run.step (.register here through)

/-- A task that nothing interrupts gives a token back as the arena has it. -/
theorem Runs.release (run : Runs start trace crowd) (here : crowd.errand task = .idle)
    (token : LockToken) :
    Runs start (trace ++ Deed.ofRelease task token (crowd.arena.release token).1)
      (crowd.after task (crowd.arena.release token).2 .idle) := by
  have begins := run.step (.giveBack token here)
  unfold Arena.release
  cases held : crowd.arena.held.get? token with
  | none =>
    have refused := begins.step (.refuse (errand_after_self ..) held)
    simpa [Deed.ofRelease] using refused
  | some holding =>
    have struck := begins.step (.strike (errand_after_self ..) held)
    have passed := struck.step (.passOn (errand_after_self ..))
    have pruned := passed.step (.prune (errand_after_self ..))
    simpa [Deed.ofRelease] using pruned

/-! ### The book of a crowd -/

/-- The arena is sound, and the book has the tokens of all errands and the held ones. -/
structure Agrees (crowd : Crowd ι) (present : LockToken → Option Presence) : Prop where
  sound : crowd.arena.Sound present
  stands {task : ι} {token : LockToken} {presence : Presence} :
    (crowd.errand task).presence? = some (token, presence) → present token = some presence
  /-- No two tasks are under way with one token. -/
  alone {task other : ι} {token : LockToken} {one two : Presence} :
    (crowd.errand task).presence? = some (token, one) →
    (crowd.errand other).presence? = some (token, two) → task = other
  holds {token : LockToken} {holding : Holding} :
    crowd.arena.held.get? token = some holding →
    present token = some ⟨.holding, holding.key, holding.gate⟩

omit [DecidableEq ι] in
theorem IsIdle.agrees (idle : crowd.IsIdle) : crowd.Agrees fun _ => none where
  sound := Arena.sound_of_idle idle.gateOf
  stands found := by simp [idle.errand, Errand.presence?] at found
  alone found := by simp [idle.errand, Errand.presence?] at found
  holds found := by simp [idle.held] at found

/-- A step of one task keeps the book when the tokens of the others stay where they were, and are
not its own. -/
theorem Agrees.go (agrees : crowd.Agrees present) {later : LockToken → Option Presence}
    {arena : Arena} {errand : Errand} (sound : arena.Sound later)
    (mine : ∀ token presence, errand.presence? = some (token, presence) →
      later token = some presence)
    (others : ∀ other token presence, other ≠ task →
      (crowd.errand other).presence? = some (token, presence) →
        later token = present token ∧ ∀ own, errand.presence? ≠ some (token, own))
    (holds : ∀ token holding, arena.held.get? token = some holding →
      later token = some ⟨.holding, holding.key, holding.gate⟩) :
    (crowd.after task arena errand).Agrees later where
  sound := sound
  stands {other token presence} found := by
    by_cases same : other = task
    · rw [same, errand_after_self] at found
      exact mine token presence found
    · rw [errand_after_other _ same] at found
      exact (others other token presence same found).1.trans (agrees.stands found)
  alone {first second token one two} found foundToo := by
    by_cases firstSame : first = task <;> by_cases secondSame : second = task
    · rw [firstSame, secondSame]
    · rw [firstSame, errand_after_self] at found
      rw [errand_after_other _ secondSame] at foundToo
      exact absurd found ((others _ _ _ secondSame foundToo).2 one)
    · rw [secondSame, errand_after_self] at foundToo
      rw [errand_after_other _ firstSame] at found
      exact absurd foundToo ((others _ _ _ firstSame found).2 two)
    · rw [errand_after_other _ firstSame] at found
      rw [errand_after_other _ secondSame] at foundToo
      exact agrees.alone found foundToo
  holds {token holding} found := holds token holding found

/-- A task that comes to stand nowhere leaves the book alone. -/
theorem Agrees.aside (agrees : crowd.Agrees present) {arena : Arena} {errand : Errand}
    (sound : arena.Sound present) (held : arena.held = crowd.arena.held)
    (nowhere : errand.presence? = none) : (crowd.after task arena errand).Agrees present := by
  refine agrees.go sound (by simp [nowhere]) (fun _ _ _ _ _ => ⟨rfl, by simp [nowhere]⟩) ?_
  intro token holding found
  rw [held] at found
  exact agrees.holds found

/-- A task goes on with its token. -/
theorem Agrees.goWith (agrees : crowd.Agrees present) {token : LockToken} {next : Option Presence}
    {arena : Arena} {errand : Errand} (sound : arena.Sound (update present token next))
    (own : ∀ other presence, other ≠ task →
      (crowd.errand other).presence? ≠ some (token, presence))
    (mine : errand.presence? = none ∨
      ∃ presence, next = some presence ∧ errand.presence? = some (token, presence))
    (registered : ∀ holding, arena.held.get? token = some holding →
      next = some ⟨.holding, holding.key, holding.gate⟩)
    (held : ∀ other, other ≠ token →
      arena.held.get? other = crowd.arena.held.get? other) :
    (crowd.after task arena errand).Agrees (update present token next) := by
  refine agrees.go sound (fun owned presence found => ?_)
    (fun other owned presence differ found => ?_) fun owned holding found => ?_
  · rcases mine with nowhere | ⟨here, rfl, stands⟩
    · simp [nowhere] at found
    · cases found.symm.trans stands
      exact Function.update_self ..
  · have differ : owned ≠ token := fun equal => own other presence differ (equal ▸ found)
    refine ⟨Function.update_of_ne differ .., fun presence mineToo => ?_⟩
    rcases mine with nowhere | ⟨here, -, stands⟩
    · simp [nowhere] at mineToo
    · cases mineToo.symm.trans stands
      exact differ rfl
  · by_cases same : owned = token
    · subst same
      rw [Function.update_self, registered holding found]
    · rw [held owned same] at found
      rw [Function.update_of_ne same, agrees.holds found]

omit [DecidableEq ι] in
/-- The others are not under way with the token of a task. -/
theorem Agrees.own (agrees : crowd.Agrees present) {token : LockToken} {presence : Presence}
    (here : (crowd.errand task).presence? = some (token, presence)) (other : ι)
    (elsewhere : Presence) (differ : other ≠ task) :
    (crowd.errand other).presence? ≠ some (token, elsewhere) :=
  fun found => differ (agrees.alone found here)

omit [DecidableEq ι] in
/-- A token under way with a task is not held. -/
theorem Agrees.not_held (agrees : crowd.Agrees present) {token : LockToken} {presence : Presence}
    (here : (crowd.errand task).presence? = some (token, presence)) :
    crowd.arena.held.get? token = none := by
  cases held : crowd.arena.held.get? token with
  | none => rfl
  | some holding =>
    have same := (agrees.stands here).symm.trans (agrees.holds held)
    cases errand : crowd.errand task with
    | idle | asking | returning | passing => simp [errand, Errand.presence?] at here
    | visiting | waiting | struck =>
      simp only [errand, Errand.presence?, Option.some.injEq, Prod.mk.injEq] at here
      rw [← here.2] at same
      cases same

/-- A task goes on at its gate with a token that is not registered. -/
theorem Agrees.goAtGate (agrees : crowd.Agrees present) {token : LockToken}
    {next : Option Presence} {arena : Arena} {errand : Errand}
    (sound : arena.Sound (update present token next))
    (own : ∀ other presence, other ≠ task →
      (crowd.errand other).presence? ≠ some (token, presence))
    (free : crowd.arena.held.get? token = none) (held : arena.held = crowd.arena.held)
    (mine : errand.presence? = none ∨
      ∃ presence, next = some presence ∧ errand.presence? = some (token, presence)) :
    (crowd.after task arena errand).Agrees (update present token next) := by
  refine agrees.goWith sound own mine (fun holding found => ?_) fun other _ => by rw [held]
  rw [held, free] at found
  cases found

/-- Every step keeps the arena sound and the book complete. -/
theorem Agrees.step (agrees : crowd.Agrees present) (step : Step task crowd deeds last) :
    ∃ later, last.Agrees later := by
  cases step with
  | ask | giveBack | refuse => exact ⟨present, agrees.aside agrees.sound rfl rfl⟩
  | @enter key =>
    have unissued {token : LockToken} {presence : Presence}
        (found : present token = some presence) : token ≠ crowd.arena.nextToken :=
      Nat.ne_of_lt (agrees.sound.issued found)
    have free : crowd.arena.held.get? crowd.arena.nextToken = none := by
      cases held : crowd.arena.held.get? crowd.arena.nextToken with
      | none => rfl
      | some holding => exact absurd rfl (unissued (agrees.holds held))
    exact ⟨_, agrees.goAtGate (agrees.sound.enter key)
      (fun other presence _ found => unissued (agrees.stands found) rfl) free
      (Arena.held_enter ..) (.inr ⟨_, rfl, rfl⟩)⟩
  | lineUp here =>
    have stands := congrArg Errand.presence? here
    exact ⟨_, agrees.goAtGate (agrees.sound.lineUp (agrees.stands stands)) (agrees.own stands)
      (agrees.not_held stands) rfl (.inr ⟨_, rfl, rfl⟩)⟩
  | @register attempt here through =>
    have stands := congrArg Errand.presence? here
    have owns : (crowd.arena.gate attempt.gate).owner = some attempt.token := by
      simpa [Arena.isThrough] using through
    refine ⟨_, agrees.goWith (agrees.sound.register (agrees.stands stands) owns)
      (agrees.own stands) (.inl rfl) (fun holding found => ?_)
      fun other differ => Collection.get?_put_other _ differ _⟩
    cases (Collection.get?_put_self crowd.arena.held attempt.token _).symm.trans found
    rfl
  | @giveUp attempt here =>
    obtain ⟨standing, stands⟩ : ∃ standing, (crowd.errand task).presence? =
        some (attempt.token, ⟨standing, attempt.key, attempt.gate⟩) := by
      rcases here with here | here <;> exact ⟨_, congrArg Errand.presence? here⟩
    exact ⟨_, agrees.goAtGate (agrees.sound.leave (agrees.stands stands)) (agrees.own stands)
      (agrees.not_held stands) rfl (.inl rfl)⟩
  | @strike token holding here held =>
    have stands := agrees.holds held
    refine ⟨_, agrees.goWith (agrees.sound.strike stands) (fun other presence _ found => ?_)
      (.inr ⟨_, rfl, rfl⟩) (fun holding found => ?_)
      fun other differ => Collection.get?_erase_other _ differ⟩
    · simp [agrees.not_held found] at held
    · simp [Arena.strike, Collection.get?_erase_self] at found
  | passOn here =>
    have stands := congrArg Errand.presence? here
    exact ⟨_, agrees.goAtGate (agrees.sound.passOn (agrees.stands stands)) (agrees.own stands)
      (agrees.not_held stands) rfl (.inl rfl)⟩
  | @prune key =>
    exact ⟨present, agrees.aside (agrees.sound.prune key) (Arena.held_prune ..) rfl⟩

end Crowd

end ReleaseCatalog
