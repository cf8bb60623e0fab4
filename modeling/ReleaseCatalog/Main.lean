/-
The program around a run of the command line: it reads the clock, the variables and the files that
the run may need, and writes back the database that the run has changed.
-/

import Std.Time.DateTime
import ReleaseCatalog.CommandLine.Run
import ReleaseCatalog.Json.Printer
import ReleaseCatalog.Store.Archive
import ReleaseCatalog.Time.Epoch

namespace ReleaseCatalog.CommandLine

/-- The variables that are set, of those that settings are read from. -/
def environment : IO (List (String × String)) :=
  Settings.variableNames.filterMapM fun name => do
    return (← IO.getEnv name).map fun value => (name, value)

/-- The text of a file with its name, if the file can be read. -/
def readFile? (name : String) : IO (Option (String × String)) :=
  try return some (name, ← IO.FS.readFile name)
  catch _ => return none

/-- The point in time that the clock shows. -/
def now : IO Timestamp := do
  let stamp ← Std.Time.Timestamp.now
  return (Timestamp.sinceEpoch? stamp.toNanosecondsSinceUnixEpoch.val.toNat).getD .sample

/-- Adds the database with a path to a workspace: as a database if the file holds one, and
otherwise as a file that is none. -/
def addDatabase (workspace : Workspace) (path : String) : IO Workspace := do
  match ← readFile? path with
  | none => return workspace
  | some (_, text) =>
    match Json.decode? Tables.ofArchive? text with
    | none => return { workspace with files := workspace.files ++ [(path, text)] }
    | some tables =>
      return { workspace with databases := workspace.databases.put (Path.normal path) tables }

/-- Writes the database with a path back, below directories that are made when they are missing. -/
def writeDatabase (workspace : Workspace) (path : String) : IO Unit := do
  match workspace.databases.get? (Path.normal path) with
  | none => return
  | some tables =>
    match Path.directories path with
    | directory :: _ => IO.FS.createDirAll directory
    | [] => pure ()
    IO.FS.writeFile path tables.archive.render

/-- Reports the outcome of a run, and answers the exit code. -/
def report : Except Failure Version → IO UInt32
  | .ok persisted => do
    IO.println persisted.toJson.renderLines
    return 0
  | .error failure => do
    IO.eprintln failure.message
    return 1

end ReleaseCatalog.CommandLine

open ReleaseCatalog ReleaseCatalog.CommandLine in
/-- Amends one version, as the arguments say. -/
def main (arguments : List String) : IO UInt32 := do
  let environment ← environment
  let files ← (fileNames environment arguments).filterMapM readFile?
  let workspace : Workspace := { files, environment }
  match databasePath? workspace arguments with
  | none => report (run workspace (← now) arguments).1
  | some path =>
    let (outcome, after) := run (← addDatabase workspace path) (← now) arguments
    writeDatabase after path
    report outcome
