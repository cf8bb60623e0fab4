/-
Settings that are put together from layers. A layer gives values to paths of names; where two
layers give tables for one path the tables are joined, and otherwise the later layer wins.
-/

import ReleaseCatalog.Settings.Value

namespace ReleaseCatalog.Setting

/-- The entries of a table; what is no table has none. -/
def entries : Setting → List (String × Setting)
  | .table entries => entries
  | _ => []

/-- Changes the entry of a name, or adds one. -/
def alter (name : String) (change : Option Setting → Setting) :
    List (String × Setting) → List (String × Setting)
  | [] => [(name, change none)]
  | (key, value) :: rest =>
    if key == name then (key, change (some value)) :: rest
    else (key, value) :: alter name change rest

mutual

/-- Lays a value over the one that is there: tables are joined, all else is replaced. A table
without entries changes nothing. -/
def overlay (below : Option Setting) : Setting → Setting
  | .table entries => overlayEntries (below.getD (.table [])) entries
  | value => value

/-- Lays the entries of a table over a value, one after the other. -/
def overlayEntries (below : Setting) : List (String × Setting) → Setting
  | [] => below
  | (name, value) :: rest =>
    let joined := Setting.table (alter name (fun there => overlay there value) below.entries)
    overlayEntries joined rest

end

/-- Lays a value over the one at a path below a value. -/
def overlayAt (below : Option Setting) (path : List String) (value : Setting) : Setting :=
  match path with
  | [] => overlay below value
  | name :: rest =>
    .table (alter name (fun there => overlayAt there rest value) (below.getD .absent).entries)

/-- Whether a character may stand in a name of a path. -/
def isNameChar (char : Char) : Bool :=
  char.isAlphanum || char == '_' || char == '-'

/-- The path that a key spells out with dots; any other key is a name of its own. -/
def path (key : String) : List String :=
  let names := key.splitOn "."
  if names.all fun name => !name.isEmpty && name.toList.all isNameChar then names else [key]

/-- Lays a layer over the settings below it. Its keys may be paths. -/
def withLayer (below : Setting) (layer : List (String × Setting)) : Setting :=
  layer.foldl (fun below (key, value) => overlayAt (some below) (path key) value) below

/-- The layer in a YAML text, which has to be a table; an empty text is an empty layer. -/
def layer? (text : String) : Option (List (String × Setting)) := do
  match ← Yaml.parse? text with
  | [] => some []
  | [document] =>
    match ← ofYaml? document with
    | .table entries => some entries
    | _ => none
  | _ => none

/-- What comes in front of the name of a setting in the environment. -/
def environmentMark : String := "catalog__"

/-- The key that the name of a variable stands for: in lower case, the mark taken off, and paths
written with two underscores for a dot. -/
def environmentKey? (name : String) : Option String :=
  let lower := String.ofList (name.toList.map Char.toLower)
  if lower.startsWith environmentMark then
    some (".".intercalate ((String.ofList (lower.toList.drop environmentMark.length)).splitOn "__"))
  else none

/-- The layer that the environment gives. -/
def environmentLayer (environment : List (String × String)) : List (String × Setting) :=
  environment.filterMap fun (name, value) => (environmentKey? name).map fun key => (key, ofText value)

end ReleaseCatalog.Setting
