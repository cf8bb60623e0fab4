/-
Requests for different versions. Each request is under way for one lock at most, that of its own
version. A record is kept of which request was given which token, so that it is known of every held
lock which request has taken it, and that it is the lock of its version. At a gate stand only those
who are there for its key, and versions have keys of their own; so no request waits for one for
another version.
-/

import ReleaseCatalog.Proofs.Concurrency.Crowding
import ReleaseCatalog.Proofs.Lock.Naming

namespace ReleaseCatalog

open Function (update)
open Program (Abides Runs)

variable {ι α : Type}

/-! ### One lock for each request -/

/-- The request asks for its own lock at most, and gives back only tokens that it bears or is given
for that lock. -/
def Request.KeepsTo (key? : Option String) (bears : LockToken → Prop) (request : Request α) :
    Prop :=
  ∃ tokens, (∀ token ∈ tokens, bears token) ∧
    Abides (Request.oneLock key?) (fun _ _ => True) request tokens

theorem Request.KeepsTo.mono {key? : Option String} {bears wider : LockToken → Prop}
    {request : Request α} (keeps : request.KeepsTo key? bears)
    (implies : ∀ token, bears token → wider token) : request.KeepsTo key? wider := by
  obtain ⟨tokens, own, rest⟩ := keeps
  exact ⟨tokens, fun token member => implies _ (own token member), rest⟩

namespace Progress

/-- The request has come so far for its own lock, and keeps to it from there. -/
def KeepsTo (key? : Option String) (bears : LockToken → Prop) : Progress α → Prop
  | ready request => request.KeepsTo key? bears
  | visiting attempt next | waiting attempt next =>
    key? = some attempt.key ∧ bears attempt.token ∧
      (∀ error, (next (.error error)).KeepsTo key? bears) ∧
      (next (.ok attempt.token)).KeepsTo key? bears
  | struck attempt next => key? = some attempt.key ∧ (next ()).KeepsTo key? bears
  | passing _ next => (next ()).KeepsTo key? bears

variable {key? : Option String} {bears wider : LockToken → Prop} {progress : Progress α}

theorem KeepsTo.mono (keeps : progress.KeepsTo key? bears)
    (implies : ∀ token, bears token → wider token) : progress.KeepsTo key? wider := by
  cases progress with
  | ready | passing => exact Request.KeepsTo.mono keeps implies
  | visiting | waiting =>
    obtain ⟨named, borne, failing, given⟩ := keeps
    exact ⟨named, implies _ borne, fun error => (failing error).mono implies, given.mono implies⟩
  | struck => exact ⟨keeps.1, keeps.2.mono implies⟩

/-- A request that is at a gate is there for its own lock. -/
theorem KeepsTo.key_of_attempt (keeps : progress.KeepsTo key? bears) {attempt : Arena.Attempt}
    (here : progress.attempt? = some attempt) : key? = some attempt.key := by
  cases progress with
  | ready | passing => cases here
  | visiting | waiting | struck =>
    cases here
    exact keeps.1

end Progress

/-! ### Which request was given which token -/

namespace System

variable [DecidableEq ι]

/-- It is known of every token which request was given it, and the lock that is held under it is the
one of that request. -/
structure Borne (keys : ι → Option String) (trace : List (Happening ι)) (system : System ι α)
    (bearer : LockToken → Option ι) : Prop where
  issued {token : LockToken} {caller : ι} : bearer token = some caller →
    token < system.site.arena.nextToken
  keeps (caller : ι) :
    (system.progress caller).KeepsTo (keys caller) fun token => bearer token = some caller
  held {token : LockToken} {holding : Holding} :
    system.site.arena.held.get? token = some holding →
      ∃ caller, bearer token = some caller ∧ keys caller = some holding.key ∧
        .obtained caller ∈ trace

variable {keys : ι → Option String} {trace happenings : List (Happening ι)}
  {system start last : System ι α} {bearer : LockToken → Option ι} {caller : ι}

/-- One request goes on with the tokens that it bears, and no lock is registered but its own. -/
theorem Borne.go (borne : system.Borne keys trace bearer) {site : Site} {progress : Progress α}
    (keeps : progress.KeepsTo (keys caller) fun token => bearer token = some caller)
    (counted : site.arena.nextToken = system.site.arena.nextToken)
    (held : ∀ token holding, site.arena.held.get? token = some holding →
      system.site.arena.held.get? token = some holding ∨
        bearer token = some caller ∧ keys caller = some holding.key ∧
          .obtained caller ∈ happenings) :
    (system.after caller site progress).Borne keys (trace ++ happenings) bearer where
  issued found := Nat.lt_of_lt_of_eq (borne.issued found) counted.symm
  keeps other := by
    by_cases same : other = caller
    · subst same
      rw [after_progress_self]
      exact keeps
    · rw [after_progress_other _ same]
      exact borne.keeps other
  held found := by
    rcases held _ _ found with before | ⟨bears, named, obtained⟩
    · obtain ⟨holder, bears, named, obtained⟩ := borne.held before
      exact ⟨holder, bears, named, List.mem_append_left _ obtained⟩
    · exact ⟨caller, bears, named, List.mem_append_right _ obtained⟩

/-- A request comes to the gate of its own lock with a fresh token. -/
theorem Borne.enter (borne : system.Borne keys trace bearer) {key : String}
    {next : Result LockToken → Request α} {id : GateId} {arena : Arena}
    (named : keys caller = some key)
    (failing : ∀ error,
      (next (.error error)).KeepsTo (keys caller) fun token => bearer token = some caller)
    (given : ∀ token, (next (.ok token)).KeepsTo (keys caller) fun other =>
      other = token ∨ bearer other = some caller)
    (entry : { system.site.arena with nextToken := system.site.arena.nextToken + 1 }.enter key
      system.site.arena.nextToken = (id, arena)) :
    ∃ later, (system.afterLock caller arena
      (.visiting ⟨key, id, system.site.arena.nextToken⟩ next)).Borne keys (trace ++ happenings)
      later := by
  have counted : arena.nextToken = system.site.arena.nextToken + 1 := by
    have kept := Arena.nextToken_enter
      { system.site.arena with nextToken := system.site.arena.nextToken + 1 } key
      system.site.arena.nextToken
    rwa [entry] at kept
  have sameHeld : arena.held = system.site.arena.held := by
    have kept := Arena.held_enter
      { system.site.arena with nextToken := system.site.arena.nextToken + 1 } key
      system.site.arena.nextToken
    rwa [entry] at kept
  -- The fresh token was nobody's, so all requests bear what they bore.
  have still {token : LockToken} {holder : ι} (bears : bearer token = some holder) :
      update bearer system.site.arena.nextToken (some caller) token = some holder := by
    rw [Function.update_of_ne (Nat.ne_of_lt (borne.issued bears))]
    exact bears
  have fresh : update bearer system.site.arena.nextToken (some caller)
      system.site.arena.nextToken = some caller := Function.update_self ..
  refine ⟨update bearer system.site.arena.nextToken (some caller), ?_, fun other => ?_,
    fun {token holding} found => ?_⟩
  · intro token holder bears
    show token < arena.nextToken
    rw [counted]
    by_cases same : token = system.site.arena.nextToken
    · exact same ▸ Nat.lt_succ_self _
    · rw [Function.update_of_ne same] at bears
      exact Nat.lt_succ_of_lt (borne.issued bears)
  · by_cases same : other = caller
    · subst same
      rw [afterLock, after_progress_self]
      refine ⟨named, fresh, fun error => (failing error).mono fun _ => still,
        (given _).mono fun token bears => ?_⟩
      rcases bears with rfl | earlier
      · exact fresh
      · exact still earlier
    · rw [afterLock, after_progress_other _ same]
      exact (borne.keeps other).mono fun _ => still
  · have before : system.site.arena.held.get? token = some holding := sameHeld ▸ found
    obtain ⟨holder, bears, namedToo, obtained⟩ := borne.held before
    exact ⟨holder, still bears, namedToo, List.mem_append_left _ obtained⟩

/-- Whatever happens next, it is known of every token which request was given it. -/
theorem Borne.step (borne : system.Borne keys trace bearer)
    (step : DisturbedStep system happenings last) :
    ∃ later, last.Borne keys (trace ++ happenings) later := by
  have keeps {caller : ι} {progress : Progress α} (here : system.progress caller = progress) :
      progress.KeepsTo (keys caller) fun token => bearer token = some caller :=
    here ▸ borne.keeps caller
  cases step with
  | notAcquired error here =>
    obtain ⟨tokens, own, -, rest⟩ := keeps here
    exact ⟨bearer, borne.go ⟨tokens, own, rest (.error error)⟩ rfl fun _ _ => .inl⟩
  | step step =>
    cases step with
    | @call _ _ _ answer _ _ here plain answered =>
      obtain ⟨tokens, own, -, rest⟩ := keeps here
      have arena := answered.arena plain
      have later := rest answer
      rw [Request.after_oneLock plain] at later
      refine ⟨bearer, borne.go ⟨tokens, own, later⟩ (by rw [arena]) fun _ _ found => .inl ?_⟩
      rwa [arena] at found
    | enter here entry | enterToHold here entry =>
      obtain ⟨tokens, own, named, rest⟩ := keeps here
      exact borne.enter named (fun error => ⟨tokens, own, rest (.error error)⟩)
        (fun token => ⟨_, fun other member => (List.mem_cons.mp member).imp_right (own other),
          rest (.ok token)⟩) entry
    | lineUp here =>
      have attempts := keeps here
      exact ⟨bearer, borne.go attempts rfl fun _ _ => .inl⟩
    | giveUp here =>
      obtain ⟨-, -, failing, -⟩ := keeps here
      exact ⟨bearer, borne.go (failing _) rfl fun _ _ => .inl⟩
    | @register caller attempt _ here =>
      obtain ⟨named, bears, -, given⟩ := keeps here
      refine ⟨bearer, borne.go given rfl fun token holding found => ?_⟩
      by_cases same : token = attempt.token
      · subst same
        cases (Collection.get?_put_self ..).symm.trans found
        exact .inr ⟨bears, named, List.mem_cons_self⟩
      · exact .inl ((Collection.get?_put_other _ same _).symm.trans found)
    | @strike caller _ token _ holding here held =>
      obtain ⟨tokens, own, mine, rest⟩ := keeps here
      -- The token was given to this request, so the lock that is held under it is its own.
      obtain ⟨holder, bears, named, -⟩ := borne.held held
      cases (own token mine).symm.trans bears
      refine ⟨bearer, borne.go ⟨named, tokens, own, rest ()⟩ rfl fun other _ found => .inl ?_⟩
      by_cases same : other = token
      · subst same
        cases (Collection.get?_erase_self ..).symm.trans found
      · exact (Collection.get?_erase_other _ same).symm.trans found
    | refused here =>
      obtain ⟨tokens, own, -, rest⟩ := keeps here
      exact ⟨bearer, borne.go ⟨tokens, own, rest ()⟩ rfl fun _ _ => .inl⟩
    | passOn here =>
      obtain ⟨-, rest⟩ := keeps here
      exact ⟨bearer, borne.go rest rfl fun _ _ => .inl⟩
    | prune here =>
      have rest := keeps here
      refine ⟨bearer, borne.go rest (Arena.nextToken_prune ..) fun token holding found => .inl ?_⟩
      exact (congrArg (·.get? token) (Arena.held_prune ..)).symm.trans found
    | outside call =>
      refine ⟨bearer, borne.issued, borne.keeps, fun found => ?_⟩
      obtain ⟨holder, bears, named, obtained⟩ := borne.held found
      exact ⟨holder, bears, named, List.mem_append_left _ obtained⟩

/-- Whatever happens to requests that keep to their own locks, it is known of every token which of
them was given it. -/
theorem DisturbedRuns.exists_borne (run : DisturbedRuns start trace last)
    (asks : ∀ caller, ∃ request, start.progress caller = .ready request ∧
      Abides (Request.oneLock (keys caller)) (fun _ _ => True) request [])
    (unheld : ∀ token, start.site.arena.held.get? token = none) :
    ∃ bearer, last.Borne keys trace bearer := by
  induction run with
  | begun =>
    refine ⟨fun _ => none, nofun, fun caller => ?_, fun found => ?_⟩
    · obtain ⟨request, here, abides⟩ := asks caller
      rw [here]
      exact ⟨[], nofun, abides⟩
    · cases (unheld _).symm.trans found
  | step _ step inductionHypothesis =>
    obtain ⟨bearer, borne⟩ := inductionHypothesis
    exact borne.step step

/-! ### Requests for versions -/

/-- A request is at a gate with a token: it is in the middle of a call with it, or it has obtained
the lock of its version, and that lock is held under the token. -/
def Occupies (system : System ι (Result Version)) (calls : ι → Amendment)
    (trace : List (Happening ι)) (caller : ι) (token : LockToken) (id : GateId) : Prop :=
  (∃ key, (system.progress caller).attempt? = some ⟨key, id, token⟩) ∨
    .obtained caller ∈ trace ∧ ∃ details, (calls caller).identifiers.resolve = .ok details ∧
      system.site.arena.held.get? token = some ⟨details.resourceKey, id⟩

/-- How requests for versions stand at gates, by what has happened. -/
structure Separate (system : System ι (Result Version)) (calls : ι → Amendment)
    (trace : List (Happening ι)) : Prop where
  /-- A request that is at a gate is there for the lock of the version that it names. -/
  own {caller : ι} {attempt : Arena.Attempt} :
    (system.progress caller).attempt? = some attempt →
      ∃ details, (calls caller).identifiers.resolve = .ok details ∧
        attempt.key = details.resourceKey
  /-- At its gate are only tokens with which requests are there. -/
  known {caller : ι} {attempt : Arena.Attempt} {token : LockToken} :
    (system.progress caller).attempt? = some attempt →
      token ∈ (system.site.arena.gate attempt.gate).tokens →
        ∃ other, system.Occupies calls trace other token attempt.gate
  /-- Whoever is at its gate is there for the same version, if no slashes are in their editions. -/
  same {caller other : ι} {attempt : Arena.Attempt} {token : LockToken}
      {details theirs : VersionDetails} :
    (system.progress caller).attempt? = some attempt →
      system.Occupies calls trace other token attempt.gate →
        (calls caller).identifiers.resolve = .ok details →
          (calls other).identifiers.resolve = .ok theirs →
            '/' ∉ details.edition.toList → '/' ∉ theirs.edition.toList → theirs = details

/-- Requests for versions that have not begun, at a site where nobody has ever come to a lock. -/
structure IsFresh (start : System ι (Result Version)) (calls : ι → Amendment) : Prop where
  asked (caller : ι) : start.progress caller = .ready (calls caller).request
  unopened (key : String) : start.site.arena.gateOf.get? key = none
  unheld (token : LockToken) : start.site.arena.held.get? token = none

section Versions

variable {calls : ι → Amendment} {begun versions : System ι (Result Version)}

omit [DecidableEq ι] in
/-- Whoever is at a gate is there for the lock of the version that it names. -/
theorem Borne.exists_key_of_occupies
    (borne : versions.Borne (fun caller => (calls caller).lockKey?) trace bearer)
    (gated : versions.Gated) {token : LockToken} {id : GateId}
    (occupies : versions.Occupies calls trace caller token id) :
    ∃ key, (calls caller).lockKey? = some key ∧
      versions.site.arena.gateOf.get? key = some id := by
  rcases occupies with ⟨key, here⟩ | ⟨-, details, named, held⟩
  · exact ⟨key, (borne.keeps caller).key_of_attempt here, gated.opened (.inl ⟨caller, here⟩)⟩
  · exact ⟨_, Amendment.lockKey?_eq_some_iff.mpr ⟨details, named, rfl⟩, gated.opened (.inr held)⟩

/-- Whatever happens to requests for versions, they stand at separate gates. -/
theorem DisturbedRuns.separate (run : DisturbedRuns begun trace versions)
    (fresh : begun.IsFresh calls) : versions.Separate calls trace := by
  have gated : versions.Gated :=
    run.gated (fun caller => ⟨_, fresh.asked caller⟩) fresh.unopened fresh.unheld
  obtain ⟨bearer, borne⟩ := run.exists_borne
    (fun caller => ⟨_, fresh.asked caller, Amendment.abides_oneLock⟩) fresh.unheld
  constructor
  case own =>
    intro caller attempt here
    obtain ⟨details, named, same⟩ :=
      Amendment.lockKey?_eq_some_iff.mp ((borne.keeps caller).key_of_attempt here)
    exact ⟨details, named, same.symm⟩
  case known =>
    intro caller attempt token here member
    rcases gated.within (gated.opened (.inl ⟨caller, here⟩)) member with ⟨other, there⟩ | held
    · exact ⟨other, .inl ⟨_, there⟩⟩
    · obtain ⟨other, -, named, obtained⟩ := borne.held held
      obtain ⟨details, resolved, same⟩ := Amendment.lockKey?_eq_some_iff.mp named
      exact ⟨other, .inr ⟨obtained, details, resolved, same ▸ held⟩⟩
  case same =>
    intro caller other attempt token details theirs here occupies named namedToo plain plainToo
    obtain ⟨key, own, opened⟩ := borne.exists_key_of_occupies gated (.inl ⟨_, here⟩)
    obtain ⟨keyToo, ownToo, openedToo⟩ := borne.exists_key_of_occupies gated occupies
    cases gated.apart opened openedToo
    obtain ⟨_, resolved, rfl⟩ := Amendment.lockKey?_eq_some_iff.mp own
    obtain ⟨_, resolvedToo, same⟩ := Amendment.lockKey?_eq_some_iff.mp ownToo
    cases named.symm.trans resolved
    cases namedToo.symm.trans resolvedToo
    exact VersionDetails.resourceKey_injective plainToo plain same

end Versions

/-- The system when a request that asks for a lock has come to its line. -/
def comeToLine (system : System ι α) (caller : ι) : System ι α :=
  match system.progress caller with
  | .ready (.step (.acquire _ key) next) =>
    system.afterLock caller (system.site.arena.request key).2
      (.waiting (system.site.arena.request key).1 next)
  | _ => system

theorem runs_comeToLine {answers : Site → (call : Call) → call.Answer → Site → Prop}
    (system : System ι α) (caller : ι) : Runs answers system [] (system.comeToLine caller) := by
  unfold comeToLine
  split
  · exact runs_request fun id arena => .enter ‹_›
  · exact .begun

end System

/-- Locks tell versions apart, whatever their datasets are called, where editions have no slashes.
Two versions that have one key are the same version. However requests for versions are interleaved
and disturbed, each is at the gate of its own version only, and whoever is there before it, in line
or with the lock, is a request for the same version. And when a store, however it came about, gives
out the document of a version, then every request for that version asks for the lock that bears the
name of the document, for that one only, and unless it is rejected at once; it makes no difference
how the request has written the number. -/
theorem lock_keys_separate_versions :
    (∀ first second : VersionDetails, '/' ∉ first.edition.toList → '/' ∉ second.edition.toList →
      first.resourceKey = second.resourceKey →
      first.datasetId = second.datasetId ∧ first.edition = second.edition ∧
        first.number = second.number) ∧
    (∀ (ι : Type) [DecidableEq ι] (calls : ι → Amendment)
      (start last : System ι (Result Version)) (trace : List (Happening ι)),
      start.IsFresh calls → System.DisturbedRuns start trace last → last.Separate calls trace) ∧
    ∀ (start backend : Backend) (now : Timestamp) (slot : VersionKey) (selector : String)
      (version : Version),
      start.IsNew → Relation.ReflTransGen Backend.Step start backend →
      (backend.perform now
        (.getVersion slot.datasetId slot.edition slot.number selector)).1 = .ok version →
      ∀ amendment : Amendment, amendment.identifiers.datasetId = slot.datasetId →
        amendment.identifiers.edition = slot.edition →
        Denotes amendment.identifiers.version slot.number.toNat →
        ∀ outside site events outcome last,
          Runs (Request.disturbedBy outside) amendment.request site events outcome last →
          (∀ key ∈ LockDeed.keys events, key = version.resource) ∧
            (outcome.isSome → (∃ error, amendment.request = .done (.error error)) ∨
              LockDeed.keys events = [version.resource]) := by
  refine ⟨fun first second plain plainToo same => ?_,
    fun ι _ calls start last trace fresh run => run.separate fresh,
    fun start backend now slot selector version fresh steps found amendment dataset edition denotes
      outside site events outcome last run => ?_⟩
  · cases VersionDetails.resourceKey_injective plain plainToo same
    exact ⟨rfl, rfl, rfl⟩
  · have named {key : String} (own : amendment.lockKey? = some key) : key = version.resource :=
      Amendment.eq_resource_of_stored (fresh.isSound.along steps) found dataset edition denotes own
    refine ⟨fun key member => named (Amendment.lockKey?_of_mem_keys run member), fun ended => ?_⟩
    obtain ⟨result, rfl⟩ := Option.isSome_iff_exists.mp ended
    rcases Amendment.keys_of_finished run with rejected | ⟨key, own, asked⟩
    · exact .inl rejected
    · exact .inr (named own ▸ asked)

/-- Of three requests one has the lock of a version and one waits for it, which has written the
number in another way; the third is for another version and is let through at once. In a store there
is a document of the first version. -/
theorem lock_keys_separate_versions_sample :
    let first : VersionDetails := ⟨"cpih01/2024", "time-series", 1⟩
    let second := VersionDetails.ofResourceKey "cpih01/2024/time-series/1"
    let calls : Fin 3 → Amendment := fun caller =>
      ⟨{}, ⟨"cpih01", "time-series", #["1", "\u2003+01 ", "2"][caller]⟩, {}, {}⟩
    let start : System (Fin 3) (Result Version) :=
      ⟨Site.sample, fun caller => .ready (calls caller).request⟩
    let last := (([0, 0, 1, 2].foldl System.goOn start).comeToLine 1).comeToLine 2
    let events := (calls 1).request.eventsAmong (fun _ site => site) Site.perform Site.sample
    let backend := ((Backend.memory {}).perform .sample
      (.addVersion { datasetId := "cpih01", edition := "time-series", number := 1 })).2
    (first.datasetId = second.datasetId ∧ first.edition = second.edition ∧
      first.number = second.number) ∧
    (∃ trace, System.DisturbedRuns start trace last ∧ last.Separate calls trace) ∧
    (last.site.arena.isThrough ⟨"cpih01/time-series/1", (0 : Nat), (1 : Nat)⟩ = false ∧
      last.site.arena.isThrough ⟨"cpih01/time-series/2", (1 : Nat), (2 : Nat)⟩ = true) ∧
    ∃ version, (backend.perform .sample (.getVersion "cpih01" "time-series" 1 ETag.any)).1 =
        .ok version ∧
      (∀ key ∈ LockDeed.keys events, key = version.resource) ∧
      (LockDeed.keys events).length = 1 := by
  intro first second calls start last events backend
  refine ⟨?_, ?_, ?_, ?_⟩
  · exact lock_keys_separate_versions.1 first second (by decide) (by decide) (by decide +kernel)
  · obtain ⟨trace, -, turns⟩ := System.exists_runs_goOn Site.answers_perform start [0, 0, 1, 2]
    have run := (turns.append (System.runs_comeToLine _ 1)).append (System.runs_comeToLine _ 2)
    exact ⟨_, run.disturbed, lock_keys_separate_versions.2.1 _ calls start last _
      ⟨fun _ => rfl, fun _ => rfl, fun _ => rfl⟩ run.disturbed⟩
  · decide +kernel
  · have run := Program.runs_eventsAmong (Request.disturbedBy fun _ _ => False)
      (fun _ site => site) Site.perform (fun call site => site.answers_perform call)
      (fun _ _ => .inl rfl) (calls 1).request Site.sample
    have denotes : Denotes "\u2003+01 " 1 :=
      ⟨['\u2003'], ['+'], ['0', '1'], [' '], by decide, List.all_eq_true.mp rfl,
        List.all_eq_true.mp rfl, .inr rfl, by decide, List.all_eq_true.mp rfl, by decide⟩
    obtain ⟨version, found⟩ : ∃ version, (backend.perform .sample
        (.getVersion "cpih01" "time-series" 1 ETag.any)).1 = .ok version := ⟨_, rfl⟩
    obtain ⟨own, -⟩ := lock_keys_separate_versions.2.2 (.memory {}) backend .sample
      ⟨"cpih01", "time-series", 1⟩ ETag.any version rfl (.single (.called _ _ _)) found (calls 1)
      rfl rfl denotes _ _ _ _ _ run
    exact ⟨version, found, own, by decide +kernel⟩

end ReleaseCatalog
