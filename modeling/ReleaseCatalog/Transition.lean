/-
Which states may move into which, for each type of dataset. A table is a list of rules of which no
two are for the same target and type; it can be given as configuration, and there is a built-in
one.
-/

import ReleaseCatalog.Error
import ReleaseCatalog.Json.Record
import ReleaseCatalog.Store.Collection

namespace ReleaseCatalog

/-- One rule: the states from which versions of a type may enter the target. -/
structure Transition where
  target : State
  type : DatasetType
  sources : List State
  deriving DecidableEq, Repr

namespace Transition

/-- The fields of a rule, in the order in which they are written. -/
def keys : List String := ["label", "type", "allowed_source_states"]

/-- The document of a rule. -/
def toJson (rule : Transition) : Json :=
  .object (Json.member "label" rule.target.toJson ++ Json.member "type" rule.type.toJson ++
    Json.member "allowed_source_states" (.array (rule.sources.map State.toJson)))

/-- Reads a rule; all fields must be given. -/
def ofJson? (value : Json) : Option Transition := do
  let fields ← Json.Fields.read? keys value
  some {
    target := ← fields.required "label" State.ofJson?
    type := ← fields.required "type" DatasetType.ofJson?
    sources := ← fields.required "allowed_source_states" (Json.decodeList State.ofJson?) }

/-- What a rule is for: a target and a type. -/
def entry (rule : Transition) : State × DatasetType :=
  (rule.target, rule.type)

/-- The error for a rule that repeats an earlier one. -/
def repetition (rule : Transition) : CatalogError :=
  .invalidConfig
    ("duplicate transition rule for " ++ rule.target.name ++ " (" ++ rule.type.name ++ ")")

end Transition

/-- A table of rules: the states from which a target may be entered, by target and type. -/
structure TransitionTable where
  sources : Collection (State × DatasetType) (List State) := {}
  deriving Repr

namespace TransitionTable

/-- The rules of a table, in the order in which they were added. -/
def rules (table : TransitionTable) : List Transition :=
  table.sources.entries.map fun ((target, type), sources) => ⟨target, type, sources⟩

/-- The states from which versions of a type may enter the target, if there is a rule. -/
def sources? (table : TransitionTable) (target : State) (type : DatasetType) :
    Option (List State) :=
  table.sources.get? (target, type)

/-- The table with a rule, which takes the place of one for the same target and type. -/
def put (table : TransitionTable) (rule : Transition) : TransitionTable :=
  ⟨table.sources.put rule.entry rule.sources⟩

/-- Adds a rule; a second one for the same target and type is refused. -/
def insert (table : TransitionTable) (rule : Transition) : Result TransitionTable :=
  match table.sources? rule.target rule.type with
  | none => .ok (table.put rule)
  | some _ => .error rule.repetition

/-- The table of a list of rules, which are added one after another. -/
def ofRules (rules : List Transition) : Result TransitionTable :=
  rules.foldlM insert {}

/-- The check of a move: there is a rule for the target and type, and it lists the current state.
A version without a state can make no move. -/
def check (table : TransitionTable) (current : Option State) (target : State)
    (type : DatasetType) : Result Unit :=
  match table.sources? target type, current with
  | some sources, some state =>
    if sources.contains state then .ok () else .error .stateTransitionNotAllowed
  | _, _ => .error .stateTransitionNotAllowed

/-- The number of rules. -/
def size (table : TransitionTable) : Nat :=
  table.sources.entries.length

/-- The states in which work on an imported version is still going on. -/
def inProgress : List State :=
  [.created, .submitted, .completed, .editionConfirmed, .associated]

/-- The built-in rules of a type with an import. A Cantabular version may be published as soon as
its edition is confirmed. -/
def importedRules (type : DatasetType) : List Transition :=
  [⟨.created, type, [.created]⟩,
    ⟨.submitted, type, [.created, .submitted]⟩,
    ⟨.completed, type, [.created, .submitted, .completed]⟩,
    ⟨.editionConfirmed, type, [.completed, .editionConfirmed, .published]⟩,
    ⟨.associated, type, [.editionConfirmed, .associated]⟩,
    ⟨.published, type,
      if type.isCantabular then [.editionConfirmed, .associated, .published]
      else [.associated, .published]⟩,
    ⟨.detached, type, inProgress⟩,
    ⟨.failed, type, inProgress⟩]

/-- The built-in rules of static datasets, which have no import. -/
def staticRules : List Transition :=
  [⟨.created, .static, [.created]⟩,
    ⟨.associated, .static, [.created, .associated]⟩,
    ⟨.published, .static, [.associated, .published]⟩,
    ⟨.detached, .static, [.created, .associated]⟩,
    ⟨.failed, .static, [.created, .associated]⟩]

/-- The built-in rules of a type. -/
def rulesOf (type : DatasetType) : List Transition :=
  if type.isStatic then staticRules else importedRules type

/-- The built-in table. -/
def builtIn : TransitionTable :=
  (DatasetType.all.flatMap rulesOf).foldl put {}

instance : Inhabited TransitionTable := ⟨builtIn⟩

end TransitionTable

end ReleaseCatalog
