/-
Mutual exclusion. The small steps of many attempts may come in any order. A book is kept of where
each token that is under way stands: at which gate, and whether it has only looked the gate up, is
in line or let through there, is registered, or has been struck and not yet passed on. The arena
is sound when it agrees with the book. All small steps keep it so, and in particular no gate is
closed while a token stands at it; so there is one gate for a key at a time, and one owner of it.
-/

import Mathlib.Logic.Function.Basic
import ReleaseCatalog.Proofs.Lock.Visit

namespace ReleaseCatalog

/-- How a token stands at a gate. -/
inductive Standing where
  /-- The gate was looked up. -/
  | visiting
  /-- In line, or let through already. -/
  | waiting
  /-- Registered. -/
  | holding
  /-- Struck from the register, and not yet passed on. -/
  | struck
  deriving DecidableEq, Repr

/-- A token under way: how it stands, for which key, and at which gate. -/
structure Presence where
  standing : Standing
  key : String
  gate : GateId
  deriving DecidableEq, Repr

namespace Gate

/-- The gate knows of a token that stands there. -/
def Knows (gate : Gate) (token : LockToken) : Standing → Prop
  | .visiting => token ∈ gate.visitors
  | .waiting => token ∈ gate.line ∨ gate.owner = some token
  | .holding | .struck => gate.owner = some token

variable {gate : Gate} {token other : LockToken} {standing : Standing}

/-- A gate that knows of a token is in use. -/
theorem Knows.not_isUnused (known : gate.Knows token standing) : gate.isUnused = false := by
  cases standing with
  | visiting =>
    have visited : token ∈ gate.visitors := known
    cases visitors : gate.visitors with
    | nil => simp [visitors] at visited
    | cons first rest => simp [isUnused, visitors]
  | waiting =>
    rcases known with lined | owned
    · cases line : gate.line with
      | nil => simp [line] at lined
      | cons first rest => simp [isUnused, line]
    · simp [isUnused, owned]
  | holding | struck =>
    have owned : gate.owner = some token := known
    simp [isUnused, owned]

theorem lineUp_of_free (unowned : gate.owner = none) (empty : gate.line = []) :
    gate.lineUp token =
      { gate with visitors := gate.visitors.erase token, owner := some token } := by
  simp [Gate.lineUp, unowned, empty]

theorem lineUp_of_busy (busy : ¬(gate.owner = none ∧ gate.line = [])) :
    gate.lineUp token =
      { gate with visitors := gate.visitors.erase token, line := gate.line ++ [token] } := by
  unfold Gate.lineUp
  cases owner : gate.owner with
  | some other => rfl
  | none =>
    cases line : gate.line with
    | nil => exact absurd ⟨owner, line⟩ busy
    | cons first rest => rfl

theorem passOn_of_line_eq {next : LockToken} {rest : List LockToken}
    (line : gate.line = next :: rest) :
    gate.passOn = { gate with owner := some next, line := rest } := by
  simp [Gate.passOn, line]

theorem knows_lineUp_self (gate : Gate) (token : LockToken) :
    (gate.lineUp token).Knows token .waiting := by
  by_cases free : gate.owner = none ∧ gate.line = []
  · rw [lineUp_of_free free.1 free.2]
    exact .inr rfl
  · rw [lineUp_of_busy free]
    exact .inl (List.mem_append_right _ List.mem_cons_self)

/-- Whoever comes to the line does not disturb the others. -/
theorem Knows.lineUp (known : gate.Knows other standing) (differ : other ≠ token) :
    (gate.lineUp token).Knows other standing := by
  by_cases free : gate.owner = none ∧ gate.line = []
  · rw [lineUp_of_free free.1 free.2]
    cases standing with
    | visiting => exact (List.mem_erase_of_ne differ).mpr known
    | waiting => simp [Knows, free.1, free.2] at known
    | holding | struck => simp [Knows, free.1] at known
  · rw [lineUp_of_busy free]
    cases standing with
    | visiting => exact (List.mem_erase_of_ne differ).mpr known
    | waiting => exact known.imp_left (List.mem_append_left _)
    | holding | struck => exact known

/-- When the owner passes on, the others are known still. -/
theorem Knows.passOn (known : gate.Knows other standing) (differ : other ≠ token)
    (owned : gate.owner = some token) : gate.passOn.Knows other standing := by
  have notOwner : gate.owner ≠ some other := by
    rw [owned]
    exact fun same => differ (Option.some_inj.mp same).symm
  cases standing with
  | visiting =>
    cases line : gate.line with
    | nil =>
      simp only [Gate.passOn, line]
      exact known
    | cons next rest =>
      rw [passOn_of_line_eq line]
      exact known
  | waiting =>
    have lined : other ∈ gate.line := known.resolve_right notOwner
    cases line : gate.line with
    | nil => simp [line] at lined
    | cons next rest =>
      rw [passOn_of_line_eq line]
      rw [line] at lined
      rcases List.mem_cons.mp lined with rfl | later
      · exact .inr rfl
      · exact .inl later
  | holding | struck => exact absurd known notOwner

/-- When one gives up, the others are known still. -/
theorem Knows.leave (known : gate.Knows other standing) (differ : other ≠ token) :
    (gate.leave token).Knows other standing := by
  have kept : Knows { gate with
      visitors := gate.visitors.erase token
      line := gate.line.erase token } other standing := by
    cases standing with
    | visiting => exact (List.mem_erase_of_ne differ).mpr known
    | waiting => exact known.imp_left (List.mem_erase_of_ne differ).mpr
    | holding | struck => exact known
  unfold Gate.leave
  by_cases owned : gate.owner = some token
  · simp only [if_pos owned]
    exact kept.passOn differ owned
  · simp only [if_neg owned]
    exact kept

end Gate

namespace Arena

open Function (update)

/-- The token is present at the gate of its key. -/
structure Has (arena : Arena) (token : LockToken) (presence : Presence) : Prop where
  opened : arena.gateOf.get? presence.key = some presence.gate
  known : (arena.gate presence.gate).Knows token presence.standing
  registered : presence.standing = .holding →
    arena.held.get? token = some ⟨presence.key, presence.gate⟩

/-- The arena agrees with the book of the tokens under way. -/
structure Sound (arena : Arena) (present : LockToken → Option Presence) : Prop where
  /-- Tokens under way have been given out. -/
  issued {token : LockToken} {presence : Presence} : present token = some presence →
    token < arena.nextToken
  /-- Gates in use have been numbered. -/
  numbered {key : String} {id : GateId} : arena.gateOf.get? key = some id → id < arena.nextGate
  /-- No two keys share a gate. -/
  apart {key other : String} {id : GateId} : arena.gateOf.get? key = some id →
    arena.gateOf.get? other = some id → key = other
  has {token : LockToken} {presence : Presence} : present token = some presence →
    arena.Has token presence

variable {arena after : Arena} {present : LockToken → Option Presence} {token other : LockToken}
  {key : String} {id : GateId}

/-- An arena in which no gate is in use is sound when no token is under way. -/
theorem sound_of_idle (idle : ∀ key, arena.gateOf.get? key = none) :
    arena.Sound fun _ => none where
  issued := nofun
  numbered found := by simp [idle] at found
  apart found := by simp [idle] at found
  has := nofun

/-- There is one owner of the lock of a key: whoever has registered, or has been struck and not yet
passed on. -/
theorem Sound.exclusive (sound : arena.Sound present) {first second : Standing} {gate : GateId}
    (firstOwns : first = .holding ∨ first = .struck)
    (secondOwns : second = .holding ∨ second = .struck)
    (one : present token = some ⟨first, key, id⟩)
    (two : present other = some ⟨second, key, gate⟩) : token = other := by
  have hasOne := sound.has one
  have hasTwo := sound.has two
  cases Option.some_inj.mp (hasOne.opened.symm.trans hasTwo.opened)
  have ownsOne : (arena.gate id).owner = some token := by
    rcases firstOwns with rfl | rfl <;> exact hasOne.known
  have ownsTwo : (arena.gate id).owner = some other := by
    rcases secondOwns with rfl | rfl <;> exact hasTwo.known
  exact Option.some_inj.mp (ownsOne.symm.trans ownsTwo)

/-! ### Small steps -/

/-- A step of one token keeps the arena sound when the others stay where they are. -/
theorem Sound.change (sound : arena.Sound present) (next : Option Presence)
    (counted : arena.nextToken ≤ after.nextToken) (issued : token < after.nextToken)
    (numbered : ∀ {key id}, after.gateOf.get? key = some id → id < after.nextGate)
    (apart : ∀ {key other id}, after.gateOf.get? key = some id →
      after.gateOf.get? other = some id → key = other)
    (others : ∀ other presence, other ≠ token → arena.Has other presence →
      after.Has other presence)
    (self : ∀ presence, next = some presence → after.Has token presence) :
    after.Sound (update present token next) := by
  have cases {other : LockToken} {presence : Presence}
      (found : update present token next other = some presence) :
      (other = token ∧ next = some presence) ∨
        (other ≠ token ∧ present other = some presence) := by
    by_cases own : other = token
    · rw [own, Function.update_self] at found
      exact .inl ⟨own, found⟩
    · rw [Function.update_of_ne own] at found
      exact .inr ⟨own, found⟩
  refine ⟨fun found => ?_, numbered, apart, fun found => ?_⟩
  · rcases cases found with ⟨rfl, -⟩ | ⟨-, earlier⟩
    · exact issued
    · exact Nat.lt_of_lt_of_le (sound.issued earlier) counted
  · rcases cases found with ⟨rfl, stands⟩ | ⟨differ, earlier⟩
    · exact self _ stands
    · exact others _ _ differ (sound.has earlier)

/-- A step of one token at the gate of a key leaves the others there alone. -/
theorem Sound.withGate (sound : arena.Sound present) (opened : arena.gateOf.get? key = some id)
    (issued : token < arena.nextToken) (gate : Gate) (next : Option Standing)
    (others : ∀ standing other, other ≠ token → (arena.gate id).Knows other standing →
      gate.Knows other standing)
    (self : ∀ standing, next = some standing → gate.Knows token standing ∧ standing ≠ .holding) :
    (arena.withGate id gate).Sound (update present token (next.map (⟨·, key, id⟩))) := by
  refine sound.change _ Nat.le.refl issued sound.numbered sound.apart ?_ ?_
  · rintro other ⟨standing, key, elsewhere⟩ differ has
    refine ⟨has.opened, ?_, has.registered⟩
    by_cases same : elsewhere = id
    · subst same
      rw [gate_withGate_self]
      exact others _ _ differ has.known
    · rw [gate_withGate_other _ same]
      exact has.known
  · intro presence same
    obtain ⟨standing, rfl, rfl⟩ := Option.map_eq_some_iff.mp same
    refine ⟨opened, ?_, fun holds => absurd holds (self standing rfl).2⟩
    rw [gate_withGate_self]
    exact (self standing rfl).1

/-- A fresh token has looked up the gate of a key, which was there or was opened for it. -/
theorem Sound.enter (sound : arena.Sound present) (key : String) :
    ({ arena with nextToken := arena.nextToken + 1 }.enter key arena.nextToken).2.Sound
      (update present arena.nextToken (some ⟨.visiting, key,
        ({ arena with nextToken := arena.nextToken + 1 }.enter key arena.nextToken).1⟩)) := by
  unfold Arena.enter
  cases opened : arena.gateOf.get? key with
  | some id =>
    have counted : Sound { arena with nextToken := arena.nextToken + 1 } present :=
      ⟨fun found => Nat.lt_succ_of_lt (sound.issued found), sound.numbered, sound.apart,
        fun found => ⟨(sound.has found).opened, (sound.has found).known,
          (sound.has found).registered⟩⟩
    refine counted.withGate opened (Nat.lt_succ_self _) _ (some .visiting) ?_ ?_
    · intro standing other _ known
      cases standing with
      | visiting => exact List.mem_cons_of_mem _ known
      | waiting | holding | struck => exact known
    · intro standing same
      cases same
      exact ⟨List.mem_cons_self, fun holds => by cases holds⟩
  | none =>
    -- The new gate has a number of its own, so it is the gate of no other key.
    have cases {other : String} {id : GateId}
        (found : (arena.gateOf.put key arena.nextGate).get? other = some id) :
        (other = key ∧ id = arena.nextGate) ∨
          (other ≠ key ∧ id < arena.nextGate ∧ arena.gateOf.get? other = some id) := by
      by_cases own : other = key
      · rw [own, Collection.get?_put_self] at found
        exact .inl ⟨own, (Option.some_inj.mp found).symm⟩
      · rw [Collection.get?_put_other _ own] at found
        exact .inr ⟨own, sound.numbered found, found⟩
    refine sound.change _ (Nat.le_succ _) (Nat.lt_succ_self _) (fun found => ?_)
      (fun found foundToo => ?_) ?_ ?_
    · rcases cases found with ⟨-, rfl⟩ | ⟨-, numbered, -⟩
      · exact Nat.lt_succ_self _
      · exact Nat.lt_succ_of_lt numbered
    · rcases cases found with ⟨rfl, rfl⟩ | ⟨-, numbered, found⟩ <;>
        rcases cases foundToo with ⟨rfl, same⟩ | ⟨-, numberedToo, foundToo⟩
      · rfl
      · exact absurd numberedToo (Nat.lt_irrefl _)
      · exact absurd numbered (same ▸ Nat.lt_irrefl _)
      · exact sound.apart found foundToo
    · rintro other presence - has
      have elsewhere : presence.key ≠ key := by
        intro same
        simp [← same, has.opened] at opened
      have numbered := sound.numbered has.opened
      refine ⟨(Collection.get?_put_other _ elsewhere _).trans has.opened, ?_, has.registered⟩
      have same : (arena.gates.put arena.nextGate { visitors := [arena.nextToken] }).get?
          presence.gate = arena.gates.get? presence.gate :=
        Collection.get?_put_other _ (Nat.ne_of_lt numbered) _
      simpa only [Arena.gate, same] using has.known
    · rintro presence same
      cases same
      refine ⟨Collection.get?_put_self _ _ _, ?_, fun holds => by cases holds⟩
      simp only [Arena.gate, Collection.get?_put_self]
      exact List.mem_cons_self

theorem Sound.lineUp (sound : arena.Sound present)
    (here : present token = some ⟨.visiting, key, id⟩) :
    (arena.lineUp id token).Sound (update present token (some ⟨.waiting, key, id⟩)) := by
  refine sound.withGate (sound.has here).opened (sound.issued here) _ (some .waiting)
    (fun _ _ differ known => known.lineUp differ) ?_
  intro standing same
  cases same
  exact ⟨Gate.knows_lineUp_self _ token, nofun⟩

theorem Sound.leave (sound : arena.Sound present) {standing : Standing}
    (here : present token = some ⟨standing, key, id⟩) :
    (arena.leave id token).Sound (update present token none) :=
  sound.withGate (sound.has here).opened (sound.issued here) _ none
    (fun _ _ differ known => known.leave differ) nofun

theorem Sound.passOn (sound : arena.Sound present)
    (here : present token = some ⟨.struck, key, id⟩) :
    (arena.passOn id).Sound (update present token none) :=
  sound.withGate (sound.has here).opened (sound.issued here) _ none
    (fun _ _ differ known => known.passOn differ (sound.has here).known) nofun

/-- Whoever was let through registers. -/
theorem Sound.register (sound : arena.Sound present)
    (here : present token = some ⟨.waiting, key, id⟩)
    (through : (arena.gate id).owner = some token) :
    (arena.register key id token).Sound (update present token (some ⟨.holding, key, id⟩)) := by
  refine sound.change _ Nat.le.refl (sound.issued here) sound.numbered sound.apart ?_ ?_
  · intro other presence differ has
    exact ⟨has.opened, has.known, fun holds =>
      (Collection.get?_put_other _ differ _).trans (has.registered holds)⟩
  · intro presence same
    cases same
    exact ⟨(sound.has here).opened, through, fun _ => Collection.get?_put_self _ _ _⟩

/-- A held token is struck from the register; its gate has not been told yet. -/
theorem Sound.strike (sound : arena.Sound present)
    (here : present token = some ⟨.holding, key, id⟩) :
    (arena.strike token).Sound (update present token (some ⟨.struck, key, id⟩)) := by
  refine sound.change _ Nat.le.refl (sound.issued here) sound.numbered sound.apart ?_ ?_
  · intro other presence differ has
    exact ⟨has.opened, has.known, fun holds =>
      (Collection.get?_erase_other _ differ).trans (has.registered holds)⟩
  · intro presence same
    cases same
    exact ⟨(sound.has here).opened, (sound.has here).known, nofun⟩

/-- A gate is closed only when no token stands at it. -/
theorem Sound.prune (sound : arena.Sound present) (key : String) :
    (arena.prune key).Sound present := by
  unfold Arena.prune
  cases opened : arena.gateOf.get? key with
  | none => exact sound
  | some id =>
    by_cases unused : (arena.gate id).isUnused = true
    · simp only [if_pos unused]
      have earlier {other : String} {gate : GateId}
          (found : (arena.gateOf.erase key).get? other = some gate) :
          arena.gateOf.get? other = some gate := by
        by_cases own : other = key
        · simp [own, Collection.get?_erase_self] at found
        · rwa [Collection.get?_erase_other _ own] at found
      refine ⟨sound.issued, fun found => sound.numbered (earlier found),
        fun found foundToo => sound.apart (earlier found) (earlier foundToo),
        fun {token presence} found => ?_⟩
      have has := sound.has found
      have otherGate : presence.gate ≠ id := by
        intro same
        rw [← same, has.known.not_isUnused] at unused
        cases unused
      have otherKey : presence.key ≠ key := by
        intro same
        exact otherGate (Option.some_inj.mp (has.opened.symm.trans (same ▸ opened)))
      refine ⟨(Collection.get?_erase_other _ otherKey).trans has.opened, ?_, has.registered⟩
      have same : (arena.gates.erase id).get? presence.gate = arena.gates.get? presence.gate :=
        Collection.get?_erase_other _ otherGate
      simpa only [Arena.gate, same] using has.known
    · simpa only [if_neg unused] using sound

end Arena

end ReleaseCatalog
