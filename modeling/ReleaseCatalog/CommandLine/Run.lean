/-
One run of the command line: it reads its arguments and settings and the update, opens the store,
sets up the workflow and amends one version. The first of these steps that fails ends the run.
-/

import ReleaseCatalog.CommandLine.Arguments
import ReleaseCatalog.Settings.Load
import ReleaseCatalog.Text.Path
import ReleaseCatalog.World.Schedule

namespace ReleaseCatalog.CommandLine

/-- What a run finds around it: files and variables, and the databases by their path. -/
structure Workspace where
  files : List (String × String) := []
  environment : List (String × String) := []
  databases : Collection String Tables := {}
  deriving Inhabited

/-- Why a run failed. -/
inductive Failure where
  | arguments (error : ArgumentError)
  /-- The file with the update cannot be read. -/
  | unreadableUpdate
  /-- The update is no version. -/
  | malformedUpdate
  | catalog (error : CatalogError)
  deriving DecidableEq, Repr

/-- The message for people. -/
def Failure.message : Failure → String
  | arguments error => error.message
  | unreadableUpdate => "the update cannot be read"
  | malformedUpdate => "the update is not a version"
  | catalog error => error.message

namespace Workspace

/-- The text of a file. A path that ends in a slash names no file. -/
def file? (workspace : Workspace) (path : String) : Option String :=
  if path.isEmpty || path.endsWith "/" then none
  else (workspace.files.find? fun file => Path.normal file.1 == Path.normal path).map (·.2)

/-- What the settings are looked up in. -/
def surroundings (workspace : Workspace) : Surroundings :=
  ⟨workspace.file?, workspace.environment⟩

/-- Whether some file or database is in the directory with this path. -/
def hasDirectory (workspace : Workspace) (path : String) : Bool :=
  let names := workspace.files.map (·.1) ++ workspace.databases.entries.map (·.1)
  names.any fun name => (Path.directories name).contains (Path.normal path)

/-- Opens the database with a path, which is empty if it is new. A directory or a file of another
kind cannot be opened, and no database can be put below a file. -/
def database (workspace : Workspace) (path : String) : Result Tables :=
  if (Path.directories path).any fun directory => (workspace.file? directory).isSome then
    .error (.invalidConfig "the directory of the database cannot be made")
  else if (workspace.file? path).isSome || workspace.hasDirectory path then .error .database
  else .ok ((workspace.databases.get? (Path.normal path)).getD {})

/-- The store that the settings name. -/
def store (workspace : Workspace) (settings : StorageSettings) : Result Backend :=
  match settings.type with
  | .memory => .ok (.memory {})
  | .sqlite => (workspace.database settings.sqlitePath).map Backend.tables

/-- Keeps what a run has done to its store, if it is one that outlives the run. -/
def keep (workspace : Workspace) (settings : StorageSettings) : Backend → Workspace
  | .tables tables =>
    { workspace with
      databases := workspace.databases.put (Path.normal settings.sqlitePath) tables }
  | _ => workspace

end Workspace

/-- The update in a file. -/
def readUpdate (workspace : Workspace) (path : String) : Except Failure Version :=
  match workspace.file? path with
  | none => .error .unreadableUpdate
  | some text =>
    match Json.decode? Version.ofJson? text with
    | none => .error .malformedUpdate
    | some update => .ok update

/-- All that a run needs before it amends anything. -/
structure Preparation where
  arguments : Arguments
  settings : Settings
  update : Version
  store : Backend
  machine : Machine

/-- The names of the files that a run may read. -/
def fileNames (environment : List (String × String)) (arguments : List String) : List String :=
  let update := match Arguments.read arguments with
    | .ok read => [read.updatePath]
    | .error _ => []
  Settings.fileNames environment (configPath arguments) ++ update

/-- The path of the database that a run works on, if it works on one. -/
def databasePath? (workspace : Workspace) (arguments : List String) : Option String :=
  match Settings.load workspace.surroundings (configPath arguments) with
  | .ok settings =>
    match settings.storage.type with
    | .sqlite => some settings.storage.sqlitePath
    | .memory => none
  | .error _ => none

/-- The outcome of a step on the catalog as one of the run. -/
def lift (result : Result α) : Except Failure α :=
  result.mapError .catalog

/-- Prepares a run. -/
def prepare (workspace : Workspace) (arguments : List String) : Except Failure Preparation := do
  let read ← (Arguments.read arguments).mapError .arguments
  let settings ← lift (Settings.load workspace.surroundings (configPath arguments))
  let update ← readUpdate workspace read.updatePath
  let store ← lift (workspace.store settings.storage)
  let machine ← lift (Machine.ofSettings settings)
  .ok ⟨read, settings, update, store, machine⟩

/-- Amends the version; answers what was written, and the workspace after it. -/
def Preparation.run (preparation : Preparation) (workspace : Workspace) (today : Timestamp) :
    Except Failure Version × Workspace :=
  let arguments := preparation.arguments
  let patience := Duration.ofMilliseconds preparation.settings.lockTimeout
  let world : World := { backend := preparation.store, arena := { patience }, today }
  let request := preparation.machine.amend arguments.identifiers preparation.update
    arguments.options
  let (outcome, after) := world.run request
  let result := outcome.getD (.error (.lockAcquisition "" ""))
  (lift result, workspace.keep preparation.settings.storage after.backend)

/-- Runs the command with the given arguments. -/
def run (workspace : Workspace) (today : Timestamp) (arguments : List String) :
    Except Failure Version × Workspace :=
  match prepare workspace arguments with
  | .error failure => (.error failure, workspace)
  | .ok preparation => preparation.run workspace today

end ReleaseCatalog.CommandLine
