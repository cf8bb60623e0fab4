/-
The settings of a catalog: where it is stored, how long locks and deadlines are, where downloads
are made, and by which rules versions move. Each setting has a default, and each group of settings
may be left out.
-/

import ReleaseCatalog.Settings.Readable
import ReleaseCatalog.Time.Duration
import ReleaseCatalog.Workflow.Amend

namespace ReleaseCatalog

/-- The kinds of storage. -/
inductive StorageType where
  | memory
  | sqlite
  deriving DecidableEq, Repr, Inhabited

/-- The name of a kind of storage in settings. -/
def StorageType.name : StorageType → String
  | memory => "memory"
  | sqlite => "sqlite"

/-- Where a catalog is stored. -/
structure StorageSettings where
  type : StorageType := .memory
  sqlitePath : String := "./data/catalog.db"
  deriving DecidableEq, Repr, Inhabited

/-- Where downloads are made; without an endpoint nothing is asked for them. -/
structure DownloadSettings where
  filterableEndpoint : Option String := none
  cantabularEndpoint : Option String := none
  /-- How long one request may take, in milliseconds. -/
  timeout : Nat := 5000
  deriving DecidableEq, Repr, Inhabited

/-- How versions move. -/
structure WorkflowSettings where
  /-- The deadline for the steps under a lock, in milliseconds. -/
  amendTimeout : Option Nat := none
  /-- The rules that stand in for the built-in ones. -/
  transitions : Option (List Transition) := none
  deriving DecidableEq, Repr, Inhabited

/-- The settings of a catalog. -/
structure Settings where
  storage : StorageSettings := {}
  /-- How long a request waits for a lock, in milliseconds. -/
  lockTimeout : Nat := 10000
  downloads : DownloadSettings := {}
  workflow : WorkflowSettings := {}
  deriving DecidableEq, Repr, Inhabited

open Readable

section
variable {Node : Type} [Readable Node]

/-- Reads a kind of storage by its name. -/
def StorageType.read? (node : Node) : Option StorageType := do
  let all := [memory, sqlite]
  let name ← name? (all.map StorageType.name) node
  all.find? fun type => type.name == name

namespace StorageSettings

/-- Reads the path among the settings of one kind of storage. -/
def readPath? (node : Node) : Option String := do
  orElse (← members? ["path"] node) "path" ({} : StorageSettings).sqlitePath text?

/-- Reads where a catalog is stored. -/
def read? (node : Node) : Option StorageSettings := do
  let members ← members? ["type", "sqlite"] node
  some {
    type := ← orElse members "type" .memory StorageType.read?
    sqlitePath := ← orElse members "sqlite" ({} : StorageSettings).sqlitePath readPath? }

end StorageSettings

/-- Reads how long a request waits for a lock. -/
def Settings.readLockTimeout? (node : Node) : Option Nat := do
  orElse (← members? ["acquire_timeout_ms"] node) "acquire_timeout_ms" ({} : Settings).lockTimeout
    count?

/-- Reads where downloads are made. -/
def DownloadSettings.read? (node : Node) : Option DownloadSettings := do
  let members ← members? ["cmd_url", "cantabular_url", "timeout_ms"] node
  some {
    filterableEndpoint := ← optional members "cmd_url" text?
    cantabularEndpoint := ← optional members "cantabular_url" text?
    timeout := ← orElse members "timeout_ms" ({} : DownloadSettings).timeout count? }

/-- Reads how versions move. -/
def WorkflowSettings.read? (node : Node) : Option WorkflowSettings := do
  let members ← members? ["amend_timeout_ms", "transitions"] node
  some {
    amendTimeout := ← optional members "amend_timeout_ms" count?
    transitions := ← optional members "transitions" (list? transition?) }

/-- Reads the settings of a catalog. -/
def Settings.read? (node : Node) : Option Settings := do
  let members ← members? ["storage", "locks", "downloads", "workflow"] node
  some {
    storage := ← orElse members "storage" {} StorageSettings.read?
    lockTimeout := ← orElse members "locks" ({} : Settings).lockTimeout Settings.readLockTimeout?
    downloads := ← orElse members "downloads" {} DownloadSettings.read?
    workflow := ← orElse members "workflow" {} WorkflowSettings.read? }

end

namespace WorkflowSettings

/-- The deadline for the steps under a lock. -/
def deadline (settings : WorkflowSettings) : Option Duration :=
  settings.amendTimeout.map Duration.ofMilliseconds

/-- The table of the rules that are set, or else the built-in one. -/
def table (settings : WorkflowSettings) : Result TransitionTable :=
  match settings.transitions with
  | some rules => TransitionTable.ofRules rules
  | none => .ok .builtIn

end WorkflowSettings

/-- The publishing workflow that settings describe. -/
def Machine.ofSettings (settings : Settings) : Result Machine := do
  let table ← settings.workflow.table
  let generators ← GeneratorRegistry.ofEndpoints settings.downloads.filterableEndpoint
    settings.downloads.cantabularEndpoint
  .ok { transitions := table, generators, deadline := settings.workflow.deadline }

end ReleaseCatalog
