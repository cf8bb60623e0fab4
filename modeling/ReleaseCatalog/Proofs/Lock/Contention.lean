/-
Mutual exclusion in a crowd. The book of the tokens under way shows that two held tokens are for two
keys, and that a gate is closed only when nobody needs it. What was obtained and struck is told by a
trace: a token is held from the one to the other, and given back once.
-/

import ReleaseCatalog.Proofs.Lock.Crowd

namespace ReleaseCatalog.Crowd

variable {ι : Type} [DecidableEq ι] {start crowd last : Crowd ι}
  {present : LockToken → Option Presence} {task : ι} {trace deeds : List (Deed ι)}

/-! ### What the trace tells -/

/-- The register by what was told: a token is held from the time when it was obtained to the time
when it was struck, and whoever has struck it gives it back once. -/
structure Told (crowd : Crowd ι) (obtained struck returned : List LockToken) : Prop where
  issued {token : LockToken} : token ∈ obtained → token < crowd.arena.nextToken
  trying {task : ι} {token : LockToken} : (crowd.errand task).trying? = some token →
    token ∉ obtained
  earlier {token : LockToken} : token ∈ struck → token ∈ obtained
  held (token : LockToken) : crowd.arena.held.get? token ≠ none ↔ token ∈ obtained ∧ token ∉ struck
  leaving {task : ι} {token : LockToken} : (crowd.errand task).leaving? = some token →
    token ∈ struck ∧ token ∉ returned
  alone {task other : ι} {token : LockToken} : (crowd.errand task).leaving? = some token →
    (crowd.errand other).leaving? = some token → task = other
  given {token : LockToken} : token ∈ returned → token ∈ struck
  struckOnce : struck.Nodup
  returnedOnce : returned.Nodup

omit [DecidableEq ι] in
theorem IsIdle.told (idle : crowd.IsIdle) : crowd.Told [] [] [] where
  issued := nofun
  trying _ := List.not_mem_nil
  earlier := nofun
  held token := by simp [idle.held]
  leaving found := by simp [idle.errand, Errand.leaving?] at found
  alone found := by simp [idle.errand, Errand.leaving?] at found
  given := nofun
  struckOnce := List.nodup_nil
  returnedOnce := List.nodup_nil

/-- After a step of one task its errand is the new one, and the others have theirs. -/
theorem errand_after_cases (crowd : Crowd ι) (task other : ι) (arena : Arena) (errand : Errand) :
    (other = task ∧ (crowd.after task arena errand).errand other = errand) ∨
      (other ≠ task ∧ (crowd.after task arena errand).errand other = crowd.errand other) := by
  by_cases same : other = task
  · subst same
    exact .inl ⟨rfl, crowd.errand_after_self ..⟩
  · exact .inr ⟨same, crowd.errand_after_other same ..⟩

variable {obtained struck returned : List LockToken} {arena : Arena} {errand : Errand}
  {token : LockToken}

/-- A step that does not touch the register, and of which nothing is told. -/
theorem Told.quiet (told : crowd.Told obtained struck returned)
    (held : arena.held = crowd.arena.held) (counted : crowd.arena.nextToken ≤ arena.nextToken)
    (trying : ∀ token, errand.trying? = some token → token ∉ obtained)
    (leaving : ∀ token, errand.leaving? = some token →
      (crowd.errand task).leaving? = some token) :
    (crowd.after task arena errand).Told obtained struck returned := by
  have left {other : ι} {token : LockToken}
      (found : ((crowd.after task arena errand).errand other).leaving? = some token) :
      (crowd.errand other).leaving? = some token := by
    rcases crowd.errand_after_cases task other arena errand with ⟨rfl, same⟩ | ⟨-, same⟩
    · exact leaving token (same ▸ found)
    · exact same ▸ found
  constructor
  case issued => exact fun found => Nat.lt_of_lt_of_le (told.issued found) counted
  case trying =>
    intro other token found
    rcases crowd.errand_after_cases task other arena errand with ⟨rfl, same⟩ | ⟨-, same⟩
    · exact trying token (same ▸ found)
    · exact told.trying (same ▸ found)
  case earlier => exact told.earlier
  case held =>
    intro token
    rw [← told.held token, ← held]
    rfl
  case leaving => exact fun found => told.leaving (left found)
  case alone => exact fun found foundToo => told.alone (left found) (left foundToo)
  case given => exact told.given
  case struckOnce => exact told.struckOnce
  case returnedOnce => exact told.returnedOnce

/-- Such a step to an errand that is about no token of its own. -/
theorem Told.calm (told : crowd.Told obtained struck returned)
    (held : arena.held = crowd.arena.held) (counted : crowd.arena.nextToken ≤ arena.nextToken)
    (trying : errand.trying? = none) (leaving : errand.leaving? = none) :
    (crowd.after task arena errand).Told obtained struck returned := by
  refine told.quiet held counted (fun token found => ?_) fun token found => ?_
  · simp [trying] at found
  · simp [leaving] at found

/-- Whoever was let through registers a token that was not obtained before. -/
theorem Told.register (told : crowd.Told obtained struck returned) {holding : Holding}
    (fresh : token ∉ obtained) (issued : token < crowd.arena.nextToken)
    (own : ∀ other, other ≠ task → (crowd.errand other).trying? ≠ some token)
    (held : arena.held = crowd.arena.held.put token holding)
    (counted : arena.nextToken = crowd.arena.nextToken) :
    (crowd.after task arena .idle).Told (obtained ++ [token]) struck returned := by
  have left {other : ι} {token : LockToken}
      (found : ((crowd.after task arena .idle).errand other).leaving? = some token) :
      (crowd.errand other).leaving? = some token := by
    rcases crowd.errand_after_cases task other arena .idle with ⟨rfl, same⟩ | ⟨-, same⟩
    · cases same ▸ found
    · exact same ▸ found
  constructor
  case issued =>
    intro other found
    show other < arena.nextToken
    rcases List.mem_append.mp found with earlier | same
    · exact counted ▸ told.issued earlier
    · exact counted ▸ List.mem_singleton.mp same ▸ issued
  case trying =>
    intro other owned found
    rcases crowd.errand_after_cases task other arena .idle with ⟨rfl, same⟩ | ⟨differ, same⟩
    · cases same ▸ found
    · rw [same] at found
      have apart : owned ≠ token := fun equal => own other differ (equal ▸ found)
      simp [told.trying found, apart]
  case earlier => exact fun found => List.mem_append_left _ (told.earlier found)
  case held =>
    intro owned
    show arena.held.get? owned ≠ none ↔ _
    rw [held]
    by_cases same : owned = token
    · subst same
      have unstruck : owned ∉ struck := fun found => fresh (told.earlier found)
      simp [Collection.get?_put_self, unstruck]
    · rw [Collection.get?_put_other _ same, told.held owned]
      simp [same]
  case leaving => exact fun found => told.leaving (left found)
  case alone => exact fun found foundToo => told.alone (left found) (left foundToo)
  case given => exact told.given
  case struckOnce => exact told.struckOnce
  case returnedOnce => exact told.returnedOnce

/-- A held token is struck by one task. -/
theorem Told.strike (told : crowd.Told obtained struck returned)
    (held : crowd.arena.held.get? token ≠ none) (leaves : errand.leaving? = some token)
    (settled : errand.trying? = none) :
    (crowd.after task (crowd.arena.strike token) errand).Told obtained (struck ++ [token])
      returned := by
  obtain ⟨earlier, unstruck⟩ := (told.held token).mp held
  constructor
  case issued => exact told.issued
  case trying =>
    intro other owned found
    rcases crowd.errand_after_cases task other (crowd.arena.strike token) errand with
      ⟨rfl, same⟩ | ⟨-, same⟩
    · cases settled.symm.trans (same ▸ found)
    · exact told.trying (same ▸ found)
  case earlier =>
    intro owned found
    rcases List.mem_append.mp found with found | same
    · exact told.earlier found
    · exact List.mem_singleton.mp same ▸ earlier
  case held =>
    intro owned
    show (crowd.arena.held.erase token).get? owned ≠ none ↔ _
    by_cases same : owned = token
    · subst same
      simp [Collection.get?_erase_self]
    · rw [Collection.get?_erase_other _ same, told.held owned]
      simp [same]
  case leaving =>
    intro other owned found
    rcases crowd.errand_after_cases task other (crowd.arena.strike token) errand with
      ⟨rfl, same⟩ | ⟨-, same⟩
    · cases leaves.symm.trans (same ▸ found)
      exact ⟨List.mem_append_right _ List.mem_cons_self, fun given => unstruck (told.given given)⟩
    · obtain ⟨gone, pending⟩ := told.leaving (same ▸ found)
      exact ⟨List.mem_append_left _ gone, pending⟩
  case alone =>
    intro first second owned found foundToo
    have here {other : ι} (differ : other ≠ task)
        (found : (crowd.errand other).leaving? = some owned) : errand.leaving? ≠ some owned := by
      intro same
      cases leaves.symm.trans same
      exact unstruck (told.leaving found).1
    rcases crowd.errand_after_cases task first (crowd.arena.strike token) errand with
        ⟨firstSame, one⟩ | ⟨firstDiffer, one⟩ <;>
      rcases crowd.errand_after_cases task second (crowd.arena.strike token) errand with
        ⟨secondSame, two⟩ | ⟨secondDiffer, two⟩
    · rw [firstSame, secondSame]
    · exact absurd (one ▸ found) (here secondDiffer (two ▸ foundToo))
    · exact absurd (two ▸ foundToo) (here firstDiffer (one ▸ found))
    · exact told.alone (one ▸ found) (two ▸ foundToo)
  case given => exact fun found => List.mem_append_left _ (told.given found)
  case struckOnce =>
    refine List.nodup_append.mpr ⟨told.struckOnce, by simp, fun owned member other same equal => ?_⟩
    rw [equal, List.mem_singleton.mp same] at member
    exact unstruck member
  case returnedOnce => exact told.returnedOnce

/-- Whoever has struck a token answers yes when its gate was closed or left open. -/
theorem Told.prune (told : crowd.Told obtained struck returned)
    (here : (crowd.errand task).leaving? = some token) (held : arena.held = crowd.arena.held)
    (counted : arena.nextToken = crowd.arena.nextToken) :
    (crowd.after task arena .idle).Told obtained struck (returned ++ [token]) := by
  have quiet : (crowd.after task arena .idle).Told obtained struck returned :=
    told.calm held (Nat.le_of_eq counted.symm) rfl rfl
  obtain ⟨gone, pending⟩ := told.leaving here
  refine { quiet with leaving := ?_, given := ?_, returnedOnce := ?_ }
  · intro other owned found
    obtain ⟨gone, pending⟩ := quiet.leaving found
    refine ⟨gone, fun given => ?_⟩
    rcases crowd.errand_after_cases task other arena .idle with ⟨rfl, same⟩ | ⟨differ, same⟩
    · cases same ▸ found
    · rw [same] at found
      rcases List.mem_append.mp given with earlier | now
      · exact pending earlier
      · exact differ (told.alone found (List.mem_singleton.mp now ▸ here))
  · intro owned given
    rcases List.mem_append.mp given with earlier | now
    · exact told.given earlier
    · exact List.mem_singleton.mp now ▸ gone
  · refine List.nodup_append.mpr
      ⟨told.returnedOnce, by simp, fun owned member other same equal => ?_⟩
    rw [equal, List.mem_singleton.mp same] at member
    exact pending member

open Deed

omit [DecidableEq ι] in
/-- Nothing more is told by deeds that take no token and strike or return none. -/
theorem Told.silent
    (told : last.Told (obtainedTokens trace) (struckTokens trace) (returnedTokens trace))
    (silent : obtainedTokens deeds = [] ∧ struckTokens deeds = [] ∧ returnedTokens deeds = []) :
    last.Told (obtainedTokens (trace ++ deeds)) (struckTokens (trace ++ deeds))
      (returnedTokens (trace ++ deeds)) := by
  simpa [silent] using told

/-- What the trace tells goes on with every step. -/
theorem Told.step (agrees : crowd.Agrees present)
    (told : crowd.Told (obtainedTokens trace) (struckTokens trace) (returnedTokens trace))
    (step : Step task crowd deeds last) :
    last.Told (obtainedTokens (trace ++ deeds)) (struckTokens (trace ++ deeds))
      (returnedTokens (trace ++ deeds)) := by
  cases step with
  | ask | giveBack | refuse =>
    refine silent ?_ ⟨rfl, rfl, rfl⟩
    exact told.calm rfl Nat.le.refl rfl rfl
  | @enter key =>
    refine silent ?_ ⟨rfl, rfl, rfl⟩
    refine told.quiet (Arena.held_enter ..) ?_ (fun token found earlier => ?_) fun token found =>
      absurd found.symm (Option.some_ne_none token)
    · rw [Arena.nextToken_enter]
      exact Nat.le_succ _
    · cases found
      exact Nat.lt_irrefl _ (told.issued earlier)
  | lineUp here =>
    refine silent ?_ ⟨rfl, rfl, rfl⟩
    refine told.quiet rfl Nat.le.refl (fun token found => ?_) fun token found =>
      absurd found.symm (Option.some_ne_none token)
    cases found
    exact told.trying (congrArg Errand.trying? here)
  | @register attempt here through =>
    have stands := congrArg Errand.presence? here
    have trying := congrArg Errand.trying? here
    have alone (other : ι) (differ : other ≠ task) :
        (crowd.errand other).trying? ≠ some attempt.token := by
      intro found
      obtain ⟨presence, standsToo⟩ := Errand.presence?_of_trying? found
      exact agrees.own stands other presence differ standsToo
    have registered : (crowd.after task (crowd.arena.claim attempt) .idle).Told
        (obtainedTokens trace ++ [attempt.token]) (struckTokens trace) (returnedTokens trace) :=
      told.register (told.trying trying) (agrees.sound.issued (agrees.stands stands)) alone rfl rfl
    simpa [obtainedTokens, struckTokens, returnedTokens] using registered
  | giveUp here =>
    refine silent ?_ ⟨rfl, rfl, rfl⟩
    exact told.calm rfl Nat.le.refl rfl rfl
  | @strike token holding here held =>
    have struck : (crowd.after task (crowd.arena.strike token)
        (.struck ⟨holding.key, holding.gate, token⟩)).Told (obtainedTokens trace)
        (struckTokens trace ++ [token]) (returnedTokens trace) :=
      told.strike (by simp [held]) rfl rfl
    simpa [obtainedTokens, struckTokens, returnedTokens] using struck
  | passOn here =>
    refine silent ?_ ⟨rfl, rfl, rfl⟩
    refine told.quiet rfl Nat.le.refl (fun token found =>
      absurd found.symm (Option.some_ne_none token)) fun token found => ?_
    cases found
    rw [here]
    rfl
  | @prune key token here =>
    have pruned : (crowd.after task (crowd.arena.prune key) .idle).Told (obtainedTokens trace)
        (struckTokens trace) (returnedTokens trace ++ [token]) :=
      told.prune (congrArg Errand.leaving? here) (Arena.held_prune ..) (Arena.nextToken_prune ..)
    simpa [obtainedTokens, struckTokens, returnedTokens] using pruned

/-! ### Gates in use -/

omit [DecidableEq ι] in
/-- Whoever needs a gate is in the book. -/
theorem Agrees.exists_of_uses (agrees : crowd.Agrees present) {key : String} {gate : GateId}
    (uses : crowd.Uses key gate) :
    ∃ token standing, present token = some ⟨standing, key, gate⟩ := by
  rcases uses with ⟨task, token, standing, found⟩ | ⟨token, found⟩
  · exact ⟨token, standing, agrees.stands found⟩
  · exact ⟨token, .holding, agrees.holds found⟩

omit [DecidableEq ι] in
/-- The gate that somebody needs for a key is the one that the next to come finds. -/
theorem Agrees.opened_of_uses (agrees : crowd.Agrees present) {key : String} {gate : GateId}
    (uses : crowd.Uses key gate) : crowd.arena.gateOf.get? key = some gate := by
  obtain ⟨token, standing, found⟩ := agrees.exists_of_uses uses
  exact (agrees.sound.has found).opened

/-- A key loses its gate only when nobody needs the gate. -/
theorem Agrees.unused_of_closed (agrees : crowd.Agrees present)
    (step : Step task crowd deeds last) {key : String} {gate : GateId}
    (opened : crowd.arena.gateOf.get? key = some gate)
    (closed : last.arena.gateOf.get? key ≠ some gate) (other : String) :
    ¬crowd.Uses other gate := by
  cases step with
  | ask | lineUp | register | giveUp | giveBack | refuse | strike | passOn =>
    exact absurd opened closed
  | @enter entered =>
    refine absurd ?_ closed
    simp only [after, Arena.enter]
    cases found : crowd.arena.gateOf.get? entered with
    | some id => exact opened
    | none =>
      have differ : key ≠ entered := by
        rintro rfl
        simp [opened] at found
      exact (Collection.get?_put_other _ differ _).trans opened
  | @prune pruned =>
    rcases crowd.arena.prune_eq_or pruned with same | ⟨id, found, unused, same⟩
    · simp only [after, same] at closed
      exact absurd opened closed
    · simp only [after, same] at closed
      have here : key = pruned := by
        by_contra differ
        exact closed ((Collection.get?_erase_other _ differ).trans opened)
      subst here
      cases found.symm.trans opened
      intro uses
      obtain ⟨token, standing, stands⟩ := agrees.exists_of_uses uses
      simp [(agrees.sound.has stands).known.not_isUnused] at unused

/-! ### Every interleaving -/

/-- How the locks of a crowd are at a moment, by what was told until then. -/
structure Exclusive (crowd : Crowd ι) (trace : List (Deed ι)) : Prop where
  /-- No two held tokens are for one key. -/
  one {token other : LockToken} {key : String} {gate gateToo : GateId} :
    crowd.arena.held.get? token = some ⟨key, gate⟩ →
    crowd.arena.held.get? other = some ⟨key, gateToo⟩ → token = other
  /-- A token is held when it was obtained and was not struck. -/
  held (token : LockToken) : crowd.arena.held.get? token ≠ none ↔
    token ∈ obtainedTokens trace ∧ token ∉ struckTokens trace
  /-- Only a token that was struck is given back with yes, and that once. -/
  struck {token : LockToken} : token ∈ returnedTokens trace → token ∈ struckTokens trace
  once : (returnedTokens trace).Nodup
  /-- There is one gate for a key that somebody needs, and the next to come finds it. -/
  opened {key : String} {gate : GateId} : crowd.Uses key gate →
    crowd.arena.gateOf.get? key = some gate

/-- What the next step of a task may do to the register and to the gates. -/
structure Orderly (task : ι) (crowd : Crowd ι) (deeds : List (Deed ι)) (next : Crowd ι) : Prop where
  /-- A token that is not held is refused, and nothing changes. -/
  refuses {token : LockToken} : crowd.errand task = .returning token →
    crowd.arena.held.get? token = none →
    deeds = [.answered task token false] ∧ next.arena = crowd.arena
  /-- A held token is struck, and no other. -/
  strikes {token : LockToken} : crowd.errand task = .returning token →
    crowd.arena.held.get? token ≠ none → deeds = [.struck task token] ∧
      ∀ other, next.arena.held.get? other =
        if other = token then none else crowd.arena.held.get? other
  /-- Whoever has struck a token answers yes in the end. -/
  answers {key : String} {token : LockToken} : crowd.errand task = .passing key token →
    deeds = [.answered task token true]
  /-- A gate is closed only when nobody needs it. -/
  closes {key : String} {gate : GateId} : crowd.arena.gateOf.get? key = some gate →
    next.arena.gateOf.get? key ≠ some gate → ∀ other, ¬crowd.Uses other gate

/-- The steps of a task that gives a token back are the ones of its call. -/
theorem Agrees.orderly (agrees : crowd.Agrees present) (step : Step task crowd deeds last) :
    Orderly task crowd deeds last where
  refuses {token} here free := by
    cases step with
    | refuse hereToo =>
      cases here.symm.trans hereToo
      exact ⟨rfl, rfl⟩
    | strike hereToo held =>
      cases here.symm.trans hereToo
      cases free.symm.trans held
    | giveUp hereToo => rcases hereToo with hereToo | hereToo <;> cases here.symm.trans hereToo
    | ask _ hereToo | enter hereToo | lineUp hereToo | register hereToo | giveBack _ hereToo
    | passOn hereToo | prune hereToo => cases here.symm.trans hereToo
  strikes {token} here held := by
    cases step with
    | refuse hereToo free =>
      cases here.symm.trans hereToo
      exact absurd free held
    | strike hereToo =>
      cases here.symm.trans hereToo
      refine ⟨rfl, fun other => ?_⟩
      by_cases same : other = token
      · rw [if_pos same, same]
        exact Collection.get?_erase_self _ _
      · rw [if_neg same]
        exact Collection.get?_erase_other _ same
    | giveUp hereToo => rcases hereToo with hereToo | hereToo <;> cases here.symm.trans hereToo
    | ask _ hereToo | enter hereToo | lineUp hereToo | register hereToo | giveBack _ hereToo
    | passOn hereToo | prune hereToo => cases here.symm.trans hereToo
  answers {key token} here := by
    cases step with
    | prune hereToo =>
      cases here.symm.trans hereToo
      rfl
    | giveUp hereToo => rcases hereToo with hereToo | hereToo <;> cases here.symm.trans hereToo
    | ask _ hereToo | enter hereToo | lineUp hereToo | register hereToo | giveBack _ hereToo
    | refuse hereToo | strike hereToo | passOn hereToo => cases here.symm.trans hereToo
  closes opened closed other := agrees.unused_of_closed step opened closed other

omit [DecidableEq ι] in
theorem Agrees.exclusive (agrees : crowd.Agrees present)
    (told : crowd.Told (obtainedTokens trace) (struckTokens trace) (returnedTokens trace)) :
    crowd.Exclusive trace where
  one {token other key gate gateToo} found foundToo := by
    have one : present token = some ⟨.holding, key, gate⟩ := agrees.holds found
    have two : present other = some ⟨.holding, key, gateToo⟩ := agrees.holds foundToo
    exact agrees.sound.exclusive (.inl rfl) (.inl rfl) one two
  held := told.held
  struck := told.given
  once := told.returnedOnce
  opened uses := agrees.opened_of_uses uses

theorem Runs.exists_agrees (idle : start.IsIdle) (run : Runs start trace last) :
    ∃ present, last.Agrees present ∧
      last.Told (obtainedTokens trace) (struckTokens trace) (returnedTokens trace) := by
  induction run with
  | begun => exact ⟨_, idle.agrees, idle.told⟩
  | step _ step inductionHypothesis =>
    obtain ⟨present, agrees, told⟩ := inductionHypothesis
    obtain ⟨later, agreesLater⟩ := agrees.step step
    exact ⟨later, agreesLater, told.step agrees step⟩

/-- Whatever tasks do at an arena, in whatever order their small steps come and whenever their
attempts give up: there is never more than one held token for a key; a held token is struck by the
one call that answers yes for it, and all other calls that give a token back are refused and change
nothing; and the gate of a key is closed only when no task stands at it and no lock depends on it,
so that nobody is given a second gate for a key in use. -/
theorem Runs.locks_are_exclusive (idle : start.IsIdle)
    (run : Runs start trace last) :
    last.Exclusive trace ∧
      ∀ task deeds next, Step task last deeds next → Orderly task last deeds next := by
  obtain ⟨present, agrees, told⟩ := run.exists_agrees idle
  exact ⟨agrees.exclusive told, fun _ _ _ step => agrees.orderly step⟩

/-- One task has the lock, another stands in line for it, the first gives it back, and the other is
let through. -/
theorem Runs.locks_are_exclusive_sample :
    let start : Crowd Bool := ⟨{}, fun _ => .idle⟩
    let trace : List (Deed Bool) :=
      [.obtained false (0 : Nat), .struck false 0, .answered false 0 true, .obtained true 1]
    start.IsIdle ∧ ∃ last, Runs start trace last ∧ last.arena.heldCount = 1 ∧
      last.Exclusive trace ∧
        ∀ task deeds next, Step task last deeds next → Orderly task last deeds next := by
  intro start trace
  have idle : start.IsIdle := ⟨fun _ => rfl, fun _ => rfl, fun _ => rfl⟩
  have asked : Runs start [] _ := Runs.begun.request false (idle.errand false) "k"
  have took := asked.claim (errand_after_self ..) (by decide)
  have waits := took.request true rfl "k"
  have gave := waits.release (rfl : Crowd.errand _ false = .idle) (0 : Nat)
  have run : Runs start trace _ :=
    gave.claim (rfl : Crowd.errand _ true = .waiting ⟨"k", (0 : Nat), (1 : Nat)⟩) (by decide)
  exact ⟨idle, _, run, by decide, run.locks_are_exclusive idle⟩

end ReleaseCatalog.Crowd
