/-
Where settings come from: the file `catalog.yaml` if there is one, a file that is given by name, a
file that the environment names, and the environment itself, each over the ones before it.
-/

import ReleaseCatalog.Settings.Layer

namespace ReleaseCatalog

/-- The places that settings are looked up in. -/
structure Surroundings where
  /-- The text of a file, if there is one of that name. -/
  file? : String → Option String
  environment : List (String × String) := []

namespace Surroundings

/-- The names that a settings file may have when it is called by one; its extension may be left
out. -/
def candidates (name : String) : List String :=
  if name.isEmpty then [] else [name, name ++ ".yaml", name ++ ".yml"]

/-- The text of a settings file. -/
def settingsFile? (surroundings : Surroundings) (name : String) : Option String :=
  (candidates name).findSome? surroundings.file?

end Surroundings

namespace Settings

/-- The settings file that is read if it is there. -/
def defaultFile : String := "catalog.yaml"

/-- The variable that names a settings file. -/
def fileVariable : String := "CATALOG_CONFIG"

/-- The variables that settings can be read from. -/
def variableNames : List String :=
  fileVariable :: ["STORAGE__TYPE", "STORAGE__SQLITE__PATH", "LOCKS__ACQUIRE_TIMEOUT_MS",
    "DOWNLOADS__CMD_URL", "DOWNLOADS__CANTABULAR_URL", "DOWNLOADS__TIMEOUT_MS",
    "WORKFLOW__AMEND_TIMEOUT_MS"].map ("CATALOG__" ++ ·)

/-- The names of the files that settings may be read from. -/
def fileNames (environment : List (String × String)) (path : Option String) : List String :=
  ([defaultFile] ++ path.toList ++ (environment.lookup fileVariable).toList).flatMap
    Surroundings.candidates

/-- The layer of a file that must be there. -/
def fileLayer? (surroundings : Surroundings) (name : String) :
    Option (List (String × Setting)) := do
  Setting.layer? (← surroundings.settingsFile? name)

/-- All layers, the lowest first. -/
def layers? (surroundings : Surroundings) (path : Option String) :
    Option (List (List (String × Setting))) := do
  let lowest ← match surroundings.settingsFile? defaultFile with
    | none => some []
    | some text => Setting.layer? text
  let given ← path.toList.mapM (fileLayer? surroundings)
  let named ← (surroundings.environment.lookup fileVariable).toList.mapM (fileLayer? surroundings)
  some (lowest :: given ++ named ++ [Setting.environmentLayer surroundings.environment])

/-- The settings that hold in the given surroundings. -/
def load (surroundings : Surroundings) (path : Option String) : Result Settings :=
  let settings := do
    Settings.read? ((← layers? surroundings path).foldl Setting.withLayer (.table []))
  match settings with
  | some settings => .ok settings
  | none => .error (.invalidConfig "the settings cannot be read")

end Settings

end ReleaseCatalog
