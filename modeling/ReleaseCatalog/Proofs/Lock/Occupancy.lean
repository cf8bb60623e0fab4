/-
Who is at a gate. A task in the middle of a call is known to its gate; here it is the other way
round: the gate of a key in use has no tokens but those of tasks that are at it for this key, and
the one under which the lock of the key is held, and each of them once. So whoever stands in line
at a gate waits for nobody who wants the lock of another key, and for no token that was forgotten.

Every step moves one token, in the gate and in the crowd alike. What it does to a gate is said by
the list of all tokens there, wherever they stand.
-/

import Mathlib.Data.List.Nodup
import ReleaseCatalog.Proofs.Lock.Contention

namespace ReleaseCatalog

namespace Gate

/-- All tokens at a gate. -/
def tokens (gate : Gate) : List LockToken :=
  gate.visitors ++ gate.owner.toList ++ gate.line

variable {gate : Gate} {token : LockToken}

/-- Whoever comes to the line is at the gate before and after. -/
theorem tokens_lineUp (visits : token ∈ gate.visitors) :
    (gate.lineUp token).tokens.Perm gate.tokens := by
  have moved : (gate.visitors.erase token ++ [token]).Perm gate.visitors :=
    List.perm_append_comm.trans (List.perm_cons_erase visits).symm
  unfold tokens
  by_cases free : gate.owner = none ∧ gate.line = []
  · rw [lineUp_of_free free.1 free.2]
    simpa [free] using moved
  · rw [lineUp_of_busy free]
    calc gate.visitors.erase token ++ gate.owner.toList ++ (gate.line ++ [token])
      _ = gate.visitors.erase token ++ (gate.owner.toList ++ gate.line ++ [token]) := by simp
      _ |>.Perm (gate.visitors.erase token ++ ([token] ++ (gate.owner.toList ++ gate.line))) :=
        List.perm_append_comm.append_left _
      _ = gate.visitors.erase token ++ [token] ++ (gate.owner.toList ++ gate.line) := by simp
      _ |>.Perm (gate.visitors ++ (gate.owner.toList ++ gate.line)) := moved.append_right _
      _ = gate.visitors ++ gate.owner.toList ++ gate.line := by simp

/-- When a gate passes on, all others stay. -/
theorem tokens_passOn (gate : Gate) : gate.passOn.tokens = gate.visitors ++ gate.line := by
  unfold tokens
  cases line : gate.line with
  | nil => simp [Gate.passOn, line]
  | cons next rest => simp [passOn_of_line_eq line]

/-- When the owner passes on, it is gone from the gate. -/
theorem tokens_passOn_of_owner (distinct : gate.tokens.Nodup) (owned : gate.owner = some token) :
    gate.passOn.tokens = gate.tokens.filter (· != token) := by
  unfold tokens at distinct
  rw [owned, List.append_assoc] at distinct
  have lined : token ∉ gate.line := (List.nodup_cons.mp distinct.of_append_right).1
  have visits : token ∉ gate.visitors := fun member =>
    List.disjoint_of_nodup_append distinct member List.mem_cons_self
  have others {list : List LockToken} (absent : token ∉ list) :
      list.filter (· != token) = list :=
    List.filter_eq_self.mpr fun other member =>
      bne_iff_ne.mpr fun same => absent (same ▸ member)
  rw [tokens_passOn, tokens, owned, List.filter_append, List.filter_append, others visits,
    others lined]
  simp

/-- Whoever gives up is gone from the gate. -/
theorem tokens_leave (distinct : gate.tokens.Nodup) :
    (gate.leave token).tokens = gate.tokens.filter (· != token) := by
  have visitors : gate.visitors.Nodup := distinct.of_append_left.of_append_left
  have line : gate.line.Nodup := distinct.of_append_right
  unfold Gate.leave
  simp only [visitors.erase_eq_filter, line.erase_eq_filter]
  by_cases owned : gate.owner = some token
  · rw [if_pos owned, tokens_passOn, tokens, owned, List.filter_append, List.filter_append]
    simp
  · have other : gate.owner.toList.filter (· != token) = gate.owner.toList := by
      refine List.filter_eq_self.mpr fun owner member => bne_iff_ne.mpr fun same => owned ?_
      rw [← same]
      exact Option.mem_toList.mp member
    rw [if_neg owned, tokens, tokens, List.filter_append, List.filter_append, other]

end Gate

namespace Arena

variable {arena : Arena} {present : LockToken → Option Presence} {key other : String} {id : GateId}

/-! ### Gates that stay as they were -/

/-- A gate that is still in use after another one was closed is as it was. -/
theorem Sound.kept_prune (sound : arena.Sound present)
    (opened : (arena.prune key).gateOf.get? other = some id) :
    arena.gateOf.get? other = some id ∧ (arena.prune key).gate id = arena.gate id := by
  rcases arena.prune_eq_or key with same | ⟨closed, openedKey, -, same⟩
  · rw [same] at opened ⊢
    exact ⟨opened, rfl⟩
  · rw [same] at opened ⊢
    have differ : other ≠ key := by
      rintro rfl
      cases (Collection.get?_erase_self ..).symm.trans opened
    have before := (Collection.get?_erase_other arena.gateOf differ).symm.trans opened
    have elsewhere : id ≠ closed := fun here => differ (sound.apart before (here ▸ openedKey))
    refine ⟨before, ?_⟩
    unfold Arena.gate
    rw [Collection.get?_erase_other _ elsewhere]

/-- A gate in use that was not entered is as it was. -/
theorem Sound.kept_enter (sound : arena.Sound present) :
    let entered := { arena with nextToken := arena.nextToken + 1 }.enter key arena.nextToken
    entered.2.gateOf.get? other = some id → id ≠ entered.1 →
      arena.gateOf.get? other = some id ∧ entered.2.gate id = arena.gate id := by
  intro entered opened differ
  have openedKey : entered.2.gateOf.get? key = some entered.1 :=
    ((sound.enter key).has (Function.update_self ..)).opened
  have apart : other ≠ key := by
    rintro rfl
    exact differ (Option.some_inj.mp (opened.symm.trans openedKey))
  have unchanged := gateOf_enter_other { arena with nextToken := arena.nextToken + 1 }
    arena.nextToken apart
  exact ⟨unchanged.symm.trans opened, gate_enter_other _ differ⟩

/-- At the gate that was entered is one token more, or no other if the gate is new. -/
theorem tokens_enter_cases (arena : Arena) (key : String) (token : LockToken) :
    let entered := arena.enter key token
    (arena.gateOf.get? key = some entered.1 ∧
        (entered.2.gate entered.1).tokens = token :: (arena.gate entered.1).tokens) ∨
      (entered.2.gate entered.1).tokens = [token] := by
  unfold Arena.enter
  cases opened : arena.gateOf.get? key with
  | some id => exact .inl ⟨rfl, by simp [Gate.tokens]⟩
  | none => exact .inr (by simp [Arena.gate, Collection.get?_put_self, Gate.tokens])

end Arena

namespace Crowd

variable {ι : Type} [DecidableEq ι] {start crowd last : Crowd ι}
  {present : LockToken → Option Presence} {task : ι} {trace deeds : List (Deed ι)}
  {token moved : LockToken} {key other : String} {id : GateId} {arena : Arena} {errand : Errand}

/-! ### Tokens at a gate -/

/-- The token is at the gate for the lock of the key: a task is in the middle of a call with it, or
the lock is held under it. -/
def At (crowd : Crowd ι) (token : LockToken) (key : String) (id : GateId) : Prop :=
  (∃ task standing, (crowd.errand task).presence? = some (token, ⟨standing, key, id⟩)) ∨
    crowd.arena.held.get? token = some ⟨key, id⟩

omit [DecidableEq ι] in
theorem Agrees.exists_of_at (agrees : crowd.Agrees present) (here : crowd.At token key id) :
    ∃ standing, present token = some ⟨standing, key, id⟩ := by
  rcases here with ⟨task, standing, stands⟩ | held
  · exact ⟨standing, agrees.stands stands⟩
  · exact ⟨.holding, agrees.holds held⟩

omit [DecidableEq ι] in
theorem Agrees.opened_of_at (agrees : crowd.Agrees present) (here : crowd.At token key id) :
    crowd.arena.gateOf.get? key = some id := by
  obtain ⟨standing, stands⟩ := agrees.exists_of_at here
  exact (agrees.sound.has stands).opened

omit [DecidableEq ι] in
/-- A token is at one gate. -/
theorem Agrees.gate_unique (agrees : crowd.Agrees present) {gate : GateId}
    (here : crowd.At token key id) (there : crowd.At token other gate) : gate = id := by
  obtain ⟨standing, stands⟩ := agrees.exists_of_at here
  obtain ⟨standingToo, standsToo⟩ := agrees.exists_of_at there
  cases stands.symm.trans standsToo
  rfl

/-- A token that a step does not move is where it was. -/
theorem At.after (here : crowd.At token key id)
    (own : ∀ presence, (crowd.errand task).presence? ≠ some (token, presence))
    (held : arena.held.get? token = crowd.arena.held.get? token) :
    (crowd.after task arena errand).At token key id := by
  rcases here with ⟨other, standing, stands⟩ | registered
  · have differ : other ≠ task := fun same => own _ (same ▸ stands)
    exact .inl ⟨other, standing, (congrArg _ (crowd.errand_after_other differ ..)).trans stands⟩
  · exact .inr (held.trans registered)

/-- A task that goes on with a token is at its gate with it. -/
theorem at_of_presence {standing : Standing}
    (stands : errand.presence? = some (token, ⟨standing, key, id⟩)) :
    (crowd.after task arena errand).At token key id :=
  .inl ⟨task, standing, (congrArg _ (crowd.errand_after_self ..)).trans stands⟩

/-! ### Every step -/

/-- At the gate of a key in use is nobody but those who are at it for the key, and each once. -/
structure Occupied (crowd : Crowd ι) : Prop where
  distinct {key : String} {id : GateId} : crowd.arena.gateOf.get? key = some id →
    (crowd.arena.gate id).tokens.Nodup
  within {key : String} {id : GateId} {token : LockToken} :
    crowd.arena.gateOf.get? key = some id → token ∈ (crowd.arena.gate id).tokens →
      crowd.At token key id

omit [DecidableEq ι] in
theorem IsIdle.occupied (idle : crowd.IsIdle) : crowd.Occupied where
  distinct opened := by simp [idle.gateOf] at opened
  within opened := by simp [idle.gateOf] at opened

omit [DecidableEq ι] in
/-- Gates that stay as they were have the same tokens, if these are still there. -/
theorem Occupied.of_at (occupied : crowd.Occupied)
    (kept : ∀ key id, last.arena.gateOf.get? key = some id →
      crowd.arena.gateOf.get? key = some id ∧ last.arena.gate id = crowd.arena.gate id)
    (still : ∀ token key id, crowd.At token key id → last.At token key id) : last.Occupied where
  distinct opened := by
    obtain ⟨before, same⟩ := kept _ _ opened
    rw [same]
    exact occupied.distinct before
  within opened member := by
    obtain ⟨before, same⟩ := kept _ _ opened
    rw [same] at member
    exact still _ _ _ (occupied.within before member)

/-- A task that goes on at its gate with a token that it does not register moves this token only. -/
theorem Occupied.atGate (occupied : crowd.Occupied) (agrees : crowd.Agrees present)
    {standing : Standing} {gate : Gate}
    (stands : (crowd.errand task).presence? = some (moved, ⟨standing, key, id⟩))
    (distinct : gate.tokens.Nodup) (fewer : gate.tokens ⊆ (crowd.arena.gate id).tokens)
    (self : moved ∈ gate.tokens →
      (crowd.after task (crowd.arena.withGate id gate) errand).At moved key id) :
    (crowd.after task (crowd.arena.withGate id gate) errand).Occupied := by
  have here : crowd.At moved key id := .inl ⟨task, standing, stands⟩
  have opened := agrees.opened_of_at here
  have others {token : LockToken} {other : String} {elsewhere : GateId} (differ : token ≠ moved)
      (there : crowd.At token other elsewhere) :
      (crowd.after task (crowd.arena.withGate id gate) errand).At token other elsewhere := by
    refine there.after (fun presence own => differ ?_) rfl
    cases stands.symm.trans own
    rfl
  constructor
  case distinct =>
    intro other elsewhere openedToo
    by_cases same : elsewhere = id
    · rw [same, arena_after, Arena.gate_withGate_self]
      exact distinct
    · rw [arena_after, Arena.gate_withGate_other _ same]
      exact occupied.distinct openedToo
  case within =>
    intro other elsewhere token openedToo member
    by_cases same : elsewhere = id
    · subst same
      cases agrees.sound.apart opened openedToo
      rw [arena_after, Arena.gate_withGate_self] at member
      by_cases own : token = moved
      · exact own ▸ self (own ▸ member)
      · exact others own (occupied.within opened (fewer member))
    · rw [arena_after, Arena.gate_withGate_other _ same] at member
      have there := occupied.within openedToo member
      refine others (fun own => same ?_) there
      exact agrees.gate_unique (own ▸ here) there

/-- A task that leaves its gate with its token leaves the others there. -/
theorem Occupied.depart (occupied : crowd.Occupied) (agrees : crowd.Agrees present)
    {standing : Standing} {gate : Gate}
    (stands : (crowd.errand task).presence? = some (moved, ⟨standing, key, id⟩))
    (gone : gate.tokens = (crowd.arena.gate id).tokens.filter (· != moved)) :
    (crowd.after task (crowd.arena.withGate id gate) errand).Occupied := by
  have distinct := occupied.distinct (agrees.opened_of_at (.inl ⟨task, _, stands⟩))
  refine occupied.atGate agrees stands (gone ▸ distinct.filter _) ?_ fun member => ?_
  · exact gone ▸ List.filter_subset_self _
  · simp [gone] at member

/-- A task comes to a gate with a fresh token. -/
theorem Occupied.enter (occupied : crowd.Occupied) (agrees : crowd.Agrees present)
    (here : crowd.errand task = .asking key) :
    let fresh := crowd.arena.nextToken
    let entered := { crowd.arena with nextToken := fresh + 1 }.enter key fresh
    (crowd.after task entered.2 (.visiting ⟨key, entered.1, fresh⟩)).Occupied := by
  intro fresh entered
  have sound := agrees.sound.enter key
  have opened : entered.2.gateOf.get? key = some entered.1 :=
    (sound.has (Function.update_self ..)).opened
  have self : (crowd.after task entered.2 (.visiting ⟨key, entered.1, fresh⟩)).At fresh key
    entered.1 := at_of_presence rfl
  have others {token : LockToken} {other : String} {id : GateId} (there : crowd.At token other id) :
      (crowd.after task entered.2 (.visiting ⟨key, entered.1, fresh⟩)).At token other id := by
    refine there.after (fun presence own => ?_) (by rw [Arena.held_enter])
    rw [here] at own
    cases own
  -- Whoever is at a gate has been given its token, so the fresh one is at none.
  have old {token : LockToken} {other : String} {id : GateId} (there : crowd.At token other id) :
      token ≠ fresh := by
    obtain ⟨standing, stands⟩ := agrees.exists_of_at there
    exact Nat.ne_of_lt (agrees.sound.issued stands)
  have cases := Arena.tokens_enter_cases { crowd.arena with nextToken := fresh + 1 } key fresh
  constructor
  case distinct =>
    intro other id openedToo
    by_cases same : id = entered.1
    · subst same
      rcases cases with ⟨before, more⟩ | only
      · refine more ▸ List.nodup_cons.mpr ⟨fun member => ?_, occupied.distinct before⟩
        exact old (occupied.within before member) rfl
      · exact only ▸ List.nodup_singleton _
    · obtain ⟨before, unchanged⟩ := agrees.sound.kept_enter openedToo same
      exact unchanged ▸ occupied.distinct before
  case within =>
    intro other id token openedToo member
    by_cases same : id = entered.1
    · subst same
      cases sound.apart opened openedToo
      rcases cases with ⟨before, more⟩ | only
      · rcases List.mem_cons.mp (more ▸ member) with rfl | earlier
        · exact self
        · exact others (occupied.within before earlier)
      · cases List.mem_singleton.mp (only ▸ member)
        exact self
    · obtain ⟨before, unchanged⟩ := agrees.sound.kept_enter openedToo same
      exact others (occupied.within before (unchanged ▸ member))

/-- A task that is at no gate moves no token. -/
theorem Occupied.aside (occupied : crowd.Occupied) (nowhere : (crowd.errand task).presence? = none)
    (held : arena.held = crowd.arena.held)
    (kept : ∀ key id, arena.gateOf.get? key = some id →
      crowd.arena.gateOf.get? key = some id ∧ arena.gate id = crowd.arena.gate id) :
    (crowd.after task arena errand).Occupied := by
  refine occupied.of_at kept fun token key id there => there.after (fun presence own => ?_) ?_
  · cases nowhere.symm.trans own
  · rw [held]

/-- Every step keeps the gates free of tokens that do not belong there. -/
theorem Occupied.step (occupied : crowd.Occupied) (agrees : crowd.Agrees present)
    (step : Step task crowd deeds last) : last.Occupied := by
  cases step with
  | ask _ here | giveBack _ here | refuse here =>
    exact occupied.aside (congrArg Errand.presence? here) rfl fun _ _ opened => ⟨opened, rfl⟩
  | enter here => exact occupied.enter agrees here
  | @lineUp attempt here =>
    have stands := congrArg Errand.presence? here
    have opened := agrees.opened_of_at (.inl ⟨task, _, stands⟩)
    have visits : attempt.token ∈ (crowd.arena.gate attempt.gate).visitors :=
      (agrees.sound.has (agrees.stands stands)).known
    have same := Gate.tokens_lineUp visits
    exact occupied.atGate agrees stands (same.nodup_iff.mpr (occupied.distinct opened))
      same.subset fun _ => at_of_presence rfl
  | @giveUp attempt here =>
    obtain ⟨standing, stands⟩ : ∃ standing, (crowd.errand task).presence? =
        some (attempt.token, ⟨standing, attempt.key, attempt.gate⟩) := by
      rcases here with here | here <;> exact ⟨_, congrArg Errand.presence? here⟩
    have distinct := occupied.distinct (agrees.opened_of_at (.inl ⟨task, _, stands⟩))
    exact occupied.depart agrees stands (Gate.tokens_leave distinct)
  | @passOn attempt here =>
    have stands := congrArg Errand.presence? here
    have distinct := occupied.distinct (agrees.opened_of_at (.inl ⟨task, _, stands⟩))
    have owned : (crowd.arena.gate attempt.gate).owner = some attempt.token :=
      (agrees.sound.has (agrees.stands stands)).known
    exact occupied.depart agrees stands (Gate.tokens_passOn_of_owner distinct owned)
  | @register attempt here through =>
    have stands := congrArg Errand.presence? here
    refine occupied.of_at (fun _ _ opened => ⟨opened, rfl⟩) fun token key id there => ?_
    by_cases own : token = attempt.token
    · subst own
      obtain ⟨standing, standsToo⟩ := agrees.exists_of_at there
      cases (agrees.stands stands).symm.trans standsToo
      exact .inr (Collection.get?_put_self ..)
    · refine there.after (fun presence ownToo => own ?_) (Collection.get?_put_other _ own _)
      cases stands.symm.trans ownToo
      rfl
  | @strike token holding here held =>
    have nowhere := congrArg Errand.presence? here
    refine occupied.of_at (fun _ _ opened => ⟨opened, rfl⟩) fun other key id there => ?_
    by_cases own : other = token
    · subst own
      obtain ⟨standing, stands⟩ := agrees.exists_of_at there
      cases (agrees.holds held).symm.trans stands
      exact at_of_presence rfl
    · refine there.after (fun presence ownToo => ?_) (Collection.get?_erase_other _ own)
      cases nowhere.symm.trans ownToo
  | prune here =>
    exact occupied.aside (congrArg Errand.presence? here) (Arena.held_prune ..)
      fun other id opened => agrees.sound.kept_prune opened

/-- Whatever tasks do at an arena, at the gate of a key in use are no tokens but those that belong
there. -/
theorem Runs.occupied (idle : start.IsIdle) (run : Runs start trace last) : last.Occupied := by
  induction run with
  | begun => exact idle.occupied
  | step earlier step inductionHypothesis =>
    obtain ⟨present, agrees, -⟩ := earlier.exists_agrees idle
    exact inductionHypothesis.step agrees step

end Crowd

end ReleaseCatalog
