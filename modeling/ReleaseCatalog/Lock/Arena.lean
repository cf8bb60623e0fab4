/-
The arena of locks. Each key that is in use has a gate. Whoever wants the lock of a key looks the
gate up, or opens a new one, and stands in line at it; whoever is let through registers, and the
number of the attempt is then the token of a held lock. Giving a token back takes three steps:
the token is struck from the register, the gate lets the next in line through, and a gate that
nobody needs any more is closed.

The small steps can be interleaved with those of other attempts. The operations that the workflow
uses, `request`, `claim`, `withdraw` and `release`, are runs of them without a break.
-/

import ReleaseCatalog.Store.Collection
import ReleaseCatalog.Workflow.Action

namespace ReleaseCatalog

/-- The number of a gate. -/
abbrev GateId := Nat

/-- A gate: the attempts that have looked it up and not yet lined up, the one that it has let
through, and those that wait in line, the first in front. -/
structure Gate where
  visitors : List LockToken := []
  owner : Option LockToken := none
  line : List LockToken := []
  deriving DecidableEq, Repr, Inhabited

namespace Gate

/-- Whether no attempt refers to the gate. -/
def isUnused (gate : Gate) : Bool :=
  gate.visitors.isEmpty && gate.owner.isNone && gate.line.isEmpty

/-- An attempt comes to the line: it is let through at once if nobody is before it. -/
def lineUp (gate : Gate) (token : LockToken) : Gate :=
  let gate := { gate with visitors := gate.visitors.erase token }
  match gate.owner, gate.line with
  | none, [] => { gate with owner := some token }
  | _, _ => { gate with line := gate.line ++ [token] }

/-- The next in line is let through. -/
def passOn (gate : Gate) : Gate :=
  match gate.line with
  | [] => { gate with owner := none }
  | next :: line => { gate with owner := some next, line := line }

/-- An attempt gives up: it leaves the line, or passes on what it was let through to. -/
def leave (gate : Gate) (token : LockToken) : Gate :=
  let gate := { gate with
    visitors := gate.visitors.erase token
    line := gate.line.erase token }
  if gate.owner = some token then gate.passOn else gate

end Gate

/-- A held lock: its key and the gate that its token was let through. -/
structure Holding where
  key : String
  gate : GateId
  deriving DecidableEq, Repr

/-- The arena: the gate of each key in use, all gates, and the register of held locks. -/
structure Arena where
  gateOf : Collection String GateId := {}
  gates : Collection GateId Gate := {}
  held : Collection LockToken Holding := {}
  /-- How long an attempt waits in line before it gives up. -/
  patience : Duration := ⟨10000000000⟩
  nextGate : GateId := 0
  nextToken : LockToken := 0
  deriving Inhabited

namespace Arena

/-- A gate by its number. -/
def gate (arena : Arena) (id : GateId) : Gate :=
  (arena.gates.get? id).getD {}

/-- The arena with one gate changed. -/
def withGate (arena : Arena) (id : GateId) (gate : Gate) : Arena :=
  { arena with gates := arena.gates.put id gate }

/-! ### Small steps -/

/-- An attempt looks up the gate of its key, opening one if there is none. -/
def enter (arena : Arena) (key : String) (token : LockToken) : GateId × Arena :=
  match arena.gateOf.get? key with
  | some id =>
    let gate := arena.gate id
    (id, arena.withGate id { gate with visitors := token :: gate.visitors })
  | none =>
    let id := arena.nextGate
    (id, { arena with
      gateOf := arena.gateOf.put key id
      gates := arena.gates.put id { visitors := [token] }
      nextGate := id + 1 })

/-- An attempt comes to the line of its gate. -/
def lineUp (arena : Arena) (id : GateId) (token : LockToken) : Arena :=
  arena.withGate id ((arena.gate id).lineUp token)

/-- An attempt that was let through registers its lock. -/
def register (arena : Arena) (key : String) (id : GateId) (token : LockToken) : Arena :=
  { arena with held := arena.held.put token ⟨key, id⟩ }

/-- A token is struck from the register. -/
def strike (arena : Arena) (token : LockToken) : Arena :=
  { arena with held := arena.held.erase token }

/-- A gate lets the next in line through. -/
def passOn (arena : Arena) (id : GateId) : Arena :=
  arena.withGate id (arena.gate id).passOn

/-- The gate of a key is closed if nobody needs it. -/
def prune (arena : Arena) (key : String) : Arena :=
  match arena.gateOf.get? key with
  | none => arena
  | some id =>
    if (arena.gate id).isUnused then
      { arena with gateOf := arena.gateOf.erase key, gates := arena.gates.erase id }
    else arena

/-- An attempt gives up at a gate. -/
def leave (arena : Arena) (id : GateId) (token : LockToken) : Arena :=
  arena.withGate id ((arena.gate id).leave token)

/-! ### Operations -/

/-- An attempt that is under way: its key, its gate and its token. -/
structure Attempt where
  key : String
  gate : GateId
  token : LockToken
  deriving DecidableEq, Repr

/-- Starts an attempt at the lock of a key, up to its place in line. -/
def request (arena : Arena) (key : String) : Attempt × Arena :=
  let token := arena.nextToken
  let (id, entered) := { arena with nextToken := token + 1 }.enter key token
  (⟨key, id, token⟩, entered.lineUp id token)

/-- Whether an attempt has been let through. -/
def isThrough (arena : Arena) (attempt : Attempt) : Bool :=
  (arena.gate attempt.gate).owner == some attempt.token

/-- Registers the lock of an attempt that was let through. -/
def claim (arena : Arena) (attempt : Attempt) : Arena :=
  arena.register attempt.key attempt.gate attempt.token

/-- Gives an attempt up. -/
def withdraw (arena : Arena) (attempt : Attempt) : Arena :=
  arena.leave attempt.gate attempt.token

/-- Gives a token back. A token that is not held is refused and changes nothing. -/
def release (arena : Arena) (token : LockToken) : Bool × Arena :=
  match arena.held.get? token with
  | none => (false, arena)
  | some holding => (true, ((arena.strike token).passOn holding.gate).prune holding.key)

/-- Whether the lock of a key is held. -/
def isLocked (arena : Arena) (key : String) : Bool :=
  arena.held.entries.any fun entry => entry.2.key == key

/-- The number of held locks. -/
def heldCount (arena : Arena) : Nat :=
  arena.held.entries.length

/-- The error of an attempt that has waited for too long. -/
def timedOut (arena : Arena) (key : String) : CatalogError :=
  .lockAcquisition key ("timed out after " ++ arena.patience.text)

end Arena

end ReleaseCatalog
