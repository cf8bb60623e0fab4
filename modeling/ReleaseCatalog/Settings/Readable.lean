/-
What settings can be read from. A tree of values is readable if it can be asked for texts, counts,
names, lists and records; the answers differ between a document that is read as it stands and
settings that were put together from several places, where texts stand in for other values.
-/

import ReleaseCatalog.Transition

namespace ReleaseCatalog

/-- Trees of values that settings can be read from. -/
class Readable (Node : Type) where
  /-- Whether a node says that there is no value. -/
  isAbsent : Node → Bool
  text? : Node → Option String
  /-- A number below 2^64. -/
  count? : Node → Option Nat
  /-- One of the given names. -/
  name? : List String → Node → Option String
  items? : Node → Option (List Node)
  /-- The members of a record that has fields of the given names. -/
  members? : List String → Node → Option (List (String × Node))

namespace Readable

variable {Node : Type} [Readable Node]

/-- A field that has a default. -/
def orElse {α : Type} (members : List (String × Node)) (key : String) (default : α)
    (read? : Node → Option α) : Option α :=
  match members.lookup key with
  | none => some default
  | some node => read? node

/-- A field that may be left out, or say that there is no value. -/
def optional {α : Type} (members : List (String × Node)) (key : String)
    (read? : Node → Option α) : Option (Option α) :=
  match members.lookup key with
  | none => some none
  | some node => if isAbsent node then some none else (read? node).map some

/-- A list of which all items can be read. -/
def list? {α : Type} (read? : Node → Option α) (node : Node) : Option (List α) := do
  (← items? node).mapM read?

/-- A state by its name. -/
def state? (node : Node) : Option State := do
  State.ofName? (← name? (State.all.map State.name) node)

/-- A type of dataset by any text that names it. -/
def datasetType? (node : Node) : Option DatasetType := do
  DatasetType.resolve? (← text? node)

/-- A transition rule; all fields must be given. -/
def transition? (node : Node) : Option Transition := do
  let members ← members? Transition.keys node
  some {
    target := ← members.lookup "label" >>= state?
    type := ← members.lookup "type" >>= datasetType?
    sources := ← members.lookup "allowed_source_states" >>= list? state? }

end Readable

end ReleaseCatalog
