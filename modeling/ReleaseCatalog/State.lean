/-
The states that a version goes through on its way to publication. The same states are kept on the
datasets, editions and instances that a version drags along.
-/

import ReleaseCatalog.Json.Basic

namespace ReleaseCatalog

/-- A state of the life of a version. -/
inductive State where
  | created
  | submitted
  | completed
  | editionConfirmed
  | associated
  | published
  | detached
  | failed
  deriving DecidableEq, Repr, Inhabited

namespace State

/-- All states, in the order in which a version meets them. -/
def all : List State :=
  [created, submitted, completed, editionConfirmed, associated, published, detached, failed]

/-- The name of a state. -/
def name : State → String
  | created => "created"
  | submitted => "submitted"
  | completed => "completed"
  | editionConfirmed => "edition-confirmed"
  | associated => "associated"
  | published => "published"
  | detached => "detached"
  | failed => "failed"

/-- The state with a given name. -/
def ofName? (text : String) : Option State :=
  all.find? fun state => state.name == text

/-- Whether a version in this state must carry its release metadata. -/
def requiresReleaseMetadata : State → Bool
  | editionConfirmed | associated | published => true
  | _ => false

/-- Whether work on a version in this state is still going on, so that it may be abandoned. -/
def isInProgress : State → Bool
  | created | submitted | completed | editionConfirmed | associated => true
  | _ => false

theorem mem_all (state : State) : state ∈ all := by
  cases state <;> decide

/-- A state is found by its own name. -/
theorem ofName?_name (state : State) : ofName? state.name = some state := by
  cases state <;> decide

/-- States are written by name. -/
def toJson (state : State) : Json :=
  .string state.name

/-- A state is read from its name, or from an object with the name as its only key and null as
the value. -/
def ofJson? : Json → Option State
  | .string text => ofName? text
  | .object [(key, .null)] => ofName? key
  | _ => none

end State

end ReleaseCatalog
