/-
What a workflow does to the world, as calls of a program. The steps that run under the lock of a
version can call the store and a generator, pause, and read the calendar; they cannot ask for
another lock. Around them a request takes the lock, gives it back, and may set the steps a
deadline.
-/

import ReleaseCatalog.Generator.Registry
import ReleaseCatalog.Merge
import ReleaseCatalog.Program
import ReleaseCatalog.Store.Call
import ReleaseCatalog.Transition
import ReleaseCatalog.Validation

namespace ReleaseCatalog

/-- What the steps under a lock may do. -/
inductive Action where
  | store (call : StoreCall)
  | generate (generator : Generator) (request : GenerateRequest)
  /-- Waits a little before a write that lost a race is tried again. -/
  | pause
  /-- Reads the calendar. -/
  | now

/-- What an action answers. -/
def Action.Answer : Action → Type
  | store call => call.Answer
  | generate _ _ => Result Unit
  | pause => Unit
  | now => Timestamp

/-- The steps under a lock. -/
abbrev Steps (α : Type) := Program Action Action.Answer α

namespace Steps

/-- Takes one action. -/
def act (action : Action) : Steps action.Answer :=
  Program.call action

/-- Makes a call on the store. -/
def store (call : StoreCall) : Steps call.Answer :=
  act (.store call)

/-- Asks a generator for downloads. -/
def generate (generator : Generator) (request : GenerateRequest) : Steps (Result Unit) :=
  act (.generate generator request)

/-- Waits a little. -/
def pause : Steps Unit :=
  act .pause

/-- Reads the calendar. -/
def now : Steps Timestamp :=
  act .now

/-- Continues with the value of a step that succeeded; an error ends the steps. -/
def andThen (steps : Steps (Result α)) (next : α → Steps (Result β)) : Steps (Result β) :=
  steps.bind fun
    | .ok value => next value
    | .error error => .done (.error error)

/-- Continues with a value that is known without any step, or ends with its error. -/
def require (result : Result α) (next : α → Steps (Result β)) : Steps (Result β) :=
  andThen (.done result) next

end Steps

/-- A lock that is held: the number of the attempt by which it was taken. Only equality matters. -/
abbrev LockToken := Nat

/-- What a request may do: the actions of its steps, with or without a time by which each must be
over, and the calls for its lock. -/
inductive Call where
  | act (action : Action)
  /-- An action that is given up when it has not been over by the expiry. -/
  | actBefore (expiry : Instant) (action : Action)
  /-- Reads the running clock. -/
  | instant
  | acquire (kind : LockKind) (key : String)
  /-- Takes a lock without passing through the store. -/
  | hold (key : String)
  | release (kind : LockKind) (token : LockToken)

/-- What a call of a request answers; an action that was given up answers nothing. -/
def Call.Answer : Call → Type
  | act action => action.Answer
  | actBefore _ action => Option action.Answer
  | instant => Instant
  | acquire _ _ => Result LockToken
  | hold _ => Result LockToken
  | release _ _ => Unit

/-- A whole request. -/
abbrev Request (α : Type) := Program Call Call.Answer α

namespace Request

/-- Makes one call. -/
def call (call : Call) : Request call.Answer :=
  Program.call call

/-- Takes a lock without passing through the store. -/
def hold (key : String) : Request (Result LockToken) :=
  call (.hold key)

/-- Takes a lock through the store. -/
def acquire (kind : LockKind) (key : String) : Request (Result LockToken) :=
  call (.acquire kind key)

/-- Runs steps without a deadline. -/
def ofSteps (steps : Steps α) : Request α :=
  steps.relabel Call.act fun _ answer => answer

/-- Runs steps until the expiry: they answer nothing if one of them was given up. -/
def before (expiry : Instant) : Steps α → Request (Option α)
  | .done result => .done (some result)
  | .step action next =>
    .step (.actBefore expiry action) fun
      | some answer => before expiry (next answer)
      | none => .done none

/-- Steps without a deadline, run on a state, do what the steps do. -/
theorem run_ofSteps (perform : (request : Call) → σ → request.Answer × σ) (steps : Steps α)
    (state : σ) :
    (ofSteps steps).run perform state =
      steps.run (fun action state => perform (.act action) state) state := by
  induction steps generalizing state with
  | done result => rfl
  | step action next ih => exact ih _ _

end Request

end ReleaseCatalog
