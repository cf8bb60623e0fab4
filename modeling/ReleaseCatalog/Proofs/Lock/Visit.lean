/-
Visits to the arena by one who never waits: a lock is asked for, and taken and given back if nobody
else has it or waits for it. A lock that was free before a visit is free after it.
-/

import ReleaseCatalog.Lock.Arena

namespace ReleaseCatalog.Arena

variable {arena : Arena} {key : String}

@[simp]
theorem gate_withGate_self (arena : Arena) (id : GateId) (gate : Gate) :
    (arena.withGate id gate).gate id = gate := by
  simp [withGate, Arena.gate, Collection.get?_put_self]

theorem gate_withGate_other (arena : Arena) {id other : GateId} (differ : other ≠ id)
    (gate : Gate) : (arena.withGate id gate).gate other = arena.gate other := by
  simp [withGate, Arena.gate, Collection.get?_put_other _ differ]

@[simp]
theorem gateOf_withGate (arena : Arena) (id : GateId) (gate : Gate) :
    (arena.withGate id gate).gateOf = arena.gateOf := rfl

/-! ### The register, which no gate touches -/

@[simp]
theorem held_enter (arena : Arena) (key : String) (token : LockToken) :
    (arena.enter key token).2.held = arena.held := by
  unfold Arena.enter
  cases arena.gateOf.get? key <;> rfl

@[simp]
theorem nextToken_enter (arena : Arena) (key : String) (token : LockToken) :
    (arena.enter key token).2.nextToken = arena.nextToken := by
  unfold Arena.enter
  cases arena.gateOf.get? key <;> rfl

/-- A gate that nobody needs is closed, or nothing changes. -/
theorem prune_eq_or (arena : Arena) (key : String) :
    arena.prune key = arena ∨ ∃ id, arena.gateOf.get? key = some id ∧
      (arena.gate id).isUnused = true ∧
      arena.prune key =
        { arena with gateOf := arena.gateOf.erase key, gates := arena.gates.erase id } := by
  unfold Arena.prune
  cases opened : arena.gateOf.get? key with
  | none => exact .inl rfl
  | some id =>
    by_cases unused : (arena.gate id).isUnused = true
    · exact .inr ⟨id, rfl, unused, if_pos unused⟩
    · exact .inl (if_neg unused)

@[simp]
theorem held_prune (arena : Arena) (key : String) : (arena.prune key).held = arena.held := by
  rcases arena.prune_eq_or key with same | ⟨id, -, -, closed⟩
  · rw [same]
  · rw [closed]

@[simp]
theorem nextToken_prune (arena : Arena) (key : String) :
    (arena.prune key).nextToken = arena.nextToken := by
  rcases arena.prune_eq_or key with same | ⟨id, -, -, closed⟩
  · rw [same]
  · rw [closed]

/-! ### Visits -/

/-- Nobody has the lock of the key, and nobody waits in line for it. -/
def IsFree (arena : Arena) (key : String) : Prop :=
  ∀ id, arena.gateOf.get? key = some id → (arena.gate id).owner = none ∧ (arena.gate id).line = []

/-- In a new arena every lock is free. -/
theorem isFree_new (key : String) : IsFree {} key := by
  intro id opened
  cases opened

/-- The arena after a visit. -/
def visited (arena : Arena) (key : String) : Arena :=
  let attempt := (arena.request key).1
  let entered := (arena.request key).2
  if entered.isThrough attempt then ((entered.claim attempt).release attempt.token).2
  else entered.withdraw attempt

theorem visited_of_through
    (through : (arena.request key).2.isThrough (arena.request key).1 = true) :
    arena.visited key =
      (((arena.request key).2.claim (arena.request key).1).release
        (arena.request key).1.token).2 := by
  simp only [visited, if_pos through]

theorem visited_of_not_through
    (refused : ¬(arena.request key).2.isThrough (arena.request key).1 = true) :
    arena.visited key = (arena.request key).2.withdraw (arena.request key).1 := by
  simp only [visited, if_neg refused]

/-- Entering the gate of a key leaves the way through it as it was. -/
theorem IsFree.enter (free : arena.IsFree key) (token : LockToken) :
    (arena.enter key token).2.gateOf.get? key = some (arena.enter key token).1 ∧
      ((arena.enter key token).2.gate (arena.enter key token).1).owner = none ∧
      ((arena.enter key token).2.gate (arena.enter key token).1).line = [] := by
  unfold Arena.enter
  cases found : arena.gateOf.get? key with
  | some id => simpa [found] using free id found
  | none => simp [Arena.gate, Collection.get?_put_self]

/-- An attempt enters the gate of its key and comes to the line there. -/
theorem request_eq (arena : Arena) (key : String) :
    let entry := { arena with nextToken := arena.nextToken + 1 }.enter key arena.nextToken
    arena.request key =
      (⟨key, entry.1, arena.nextToken⟩, entry.2.lineUp entry.1 arena.nextToken) := rfl

@[simp]
theorem key_request (arena : Arena) (key : String) : (arena.request key).1.key = key := rfl

/-- Whoever asks for a free lock is let through, and nobody waits behind. -/
theorem IsFree.request (free : arena.IsFree key) :
    (arena.request key).2.gateOf.get? key = some (arena.request key).1.gate ∧
      ((arena.request key).2.gate (arena.request key).1.gate).owner =
        some (arena.request key).1.token ∧
      ((arena.request key).2.gate (arena.request key).1.gate).line = [] := by
  have freeNext : IsFree { arena with nextToken := arena.nextToken + 1 } key := free
  have entry := freeNext.enter arena.nextToken
  rw [request_eq]
  generalize Arena.enter _ key arena.nextToken = entered at entry
  obtain ⟨found, unowned, empty⟩ := entry
  exact ⟨found, by simp [lineUp, Gate.lineUp, unowned, empty]⟩

theorem IsFree.isThrough (free : arena.IsFree key) :
    (arena.request key).2.isThrough (arena.request key).1 = true := by
  unfold Arena.isThrough
  rw [free.request.2.1]
  exact beq_self_eq_true _

/-- Closing the gate of a key, or leaving it open, keeps a free lock free. -/
theorem IsFree.prune (free : arena.IsFree key) : (arena.prune key).IsFree key := by
  unfold Arena.prune
  cases found : arena.gateOf.get? key with
  | none => exact free
  | some id =>
    by_cases unused : (arena.gate id).isUnused = true
    · simp only [if_pos unused]
      intro other opened
      rw [Collection.get?_erase_self] at opened
      cases opened
    · simpa only [if_neg unused] using free

/-- The lock of an attempt that was let through is given back in three steps. -/
theorem release_claim (arena : Arena) (attempt : Attempt) :
    ((arena.claim attempt).release attempt.token).2 =
      (((arena.claim attempt).strike attempt.token).passOn attempt.gate).prune attempt.key := by
  simp [release, claim, register, Collection.get?_put_self]

/-- A gate at which nobody waits belongs to nobody when it lets the next in line through. -/
theorem passOn_of_line_nil {gate : Gate} (line : gate.line = []) :
    gate.passOn.owner = none ∧ gate.passOn.line = [] := by
  unfold Gate.passOn
  rw [line]
  exact ⟨rfl, rfl⟩

/-- The lock of an attempt that was let through is free when it has been given back and nobody
waits for it. -/
theorem isFree_release {attempt : Attempt}
    (found : arena.gateOf.get? attempt.key = some attempt.gate)
    (line : (arena.gate attempt.gate).line = []) :
    ((arena.claim attempt).release attempt.token).2.IsFree attempt.key := by
  rw [release_claim]
  refine IsFree.prune fun id opened => ?_
  cases Option.some_inj.mp (found.symm.trans opened)
  rw [passOn, gate_withGate_self]
  exact passOn_of_line_nil line

/-- A free lock is free again after a visit. -/
theorem IsFree.visited (free : arena.IsFree key) : (arena.visited key).IsFree key := by
  rw [visited_of_through free.isThrough]
  exact isFree_release free.request.1 free.request.2.2

/-! ### What a visit leaves alone -/

/-- Entering opens no gate but the one of the key. -/
theorem gateOf_enter_other (arena : Arena) (token : LockToken) {other : String}
    (differ : other ≠ key) :
    (arena.enter key token).2.gateOf.get? other = arena.gateOf.get? other := by
  unfold Arena.enter
  cases arena.gateOf.get? key with
  | some id => rfl
  | none => exact Collection.get?_put_other _ differ _

/-- Entering touches no gate but the one that is entered. -/
theorem gate_enter_other (arena : Arena) {token : LockToken} {id : GateId}
    (differ : id ≠ (arena.enter key token).1) :
    (arena.enter key token).2.gate id = arena.gate id := by
  unfold Arena.enter at differ ⊢
  cases opened : arena.gateOf.get? key with
  | some own =>
    simp only [opened] at differ ⊢
    exact gate_withGate_other _ differ _
  | none =>
    simp only [opened] at differ ⊢
    unfold Arena.gate
    rw [Collection.get?_put_other _ differ]

/-- An attempt opens no gate but the one of its key. -/
theorem gateOf_request_other (arena : Arena) {other : String} (differ : other ≠ key) :
    (arena.request key).2.gateOf.get? other = arena.gateOf.get? other := by
  rw [request_eq, lineUp, gateOf_withGate, gateOf_enter_other _ _ differ]

/-- An attempt touches no gate but its own. -/
theorem gate_request_other (arena : Arena) {id : GateId}
    (differ : id ≠ (arena.request key).1.gate) :
    (arena.request key).2.gate id = arena.gate id := by
  rw [request_eq] at differ ⊢
  rw [lineUp, gate_withGate_other _ differ, gate_enter_other _ differ]
  rfl

/-- Closing the gate of a key closes no other. -/
theorem gateOf_prune_other (arena : Arena) {other : String} (differ : other ≠ key) :
    (arena.prune key).gateOf.get? other = arena.gateOf.get? other := by
  rcases arena.prune_eq_or key with same | ⟨id, -, -, closed⟩
  · rw [same]
  · rw [closed]
    exact Collection.get?_erase_other _ differ

/-- A gate is as it was before the gate of a key was closed, or new. -/
theorem gate_prune (arena : Arena) (key : String) (id : GateId) :
    (arena.prune key).gate id = arena.gate id ∨ (arena.prune key).gate id = {} := by
  rcases arena.prune_eq_or key with same | ⟨own, -, -, closed⟩
  · exact .inl (by rw [same])
  · rw [closed]
    unfold Arena.gate
    by_cases here : id = own
    · subst here
      exact .inr (by rw [Collection.get?_erase_self]; rfl)
    · exact .inl (by rw [Collection.get?_erase_other _ here])

/-- A lock that is free stays free when a free lock is visited. -/
theorem IsFree.visited_of_free {other : String} (free : arena.IsFree key)
    (untouched : arena.IsFree other) : (arena.visited key).IsFree other := by
  by_cases differ : other = key
  · exact differ ▸ free.visited
  · obtain ⟨-, -, line⟩ := free.request
    rw [visited_of_through free.isThrough, release_claim]
    intro id opened
    rw [key_request, gateOf_prune_other _ differ] at opened
    have opened := (gateOf_request_other arena differ).symm.trans opened
    rcases gate_prune _ (arena.request key).1.key id with same | closed
    · rw [same]
      by_cases here : id = (arena.request key).1.gate
      · rw [here, passOn, gate_withGate_self]
        exact passOn_of_line_nil line
      · have same := gate_request_other arena here
        obtain ⟨unowned, empty⟩ := untouched id opened
        rw [passOn, gate_withGate_other _ here]
        exact ⟨(congrArg Gate.owner same).trans unowned, (congrArg Gate.line same).trans empty⟩
    · rw [closed]
      exact ⟨rfl, rfl⟩

end ReleaseCatalog.Arena
