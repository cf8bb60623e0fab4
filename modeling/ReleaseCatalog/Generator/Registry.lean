/-
Generators of downloads. Publishing only asks a generator to start; the files are made elsewhere
and later. Each type of dataset has at most one generator: one that records what it is asked, or
one behind an address that is asked over the network.
-/

import ReleaseCatalog.Generator.Url
import ReleaseCatalog.Store.Collection
import ReleaseCatalog.Version.Basic

namespace ReleaseCatalog

/-- What a generator is asked to make downloads for. -/
structure GenerateRequest where
  datasetId : String
  instanceId : String
  edition : String
  version : String
  deriving DecidableEq, Repr

/-- The body of a request that is sent to a generator. -/
def GenerateRequest.toJson (request : GenerateRequest) : Json :=
  .object (Json.member "dataset_id" (.string request.datasetId) ++
    Json.member "instance_id" (.string request.instanceId) ++
    Json.member "edition" (.string request.edition) ++
    Json.member "version" (.string request.version))

/-- A generator of downloads. -/
inductive Generator where
  /-- Records every request for datasets of a type, and fails as it is told to. -/
  | recording (type : DatasetType)
  /-- Sends every request to an endpoint. -/
  | remote (name endpoint : String)
  deriving DecidableEq, Repr

namespace Generator

/-- The name of a generator. -/
def name : Generator → String
  | recording _ => "recording"
  | remote name _ => name

/-- The generator behind an endpoint, which must not be empty. -/
def ofEndpoint (name endpoint : String) : Result Generator :=
  if endpoint.isEmpty then
    .error (.invalidConfig ("downloads endpoint for " ++ name ++ " is empty"))
  else .ok (.remote name endpoint)

/-- Why nothing can be sent to an endpoint from a place without a network: its text is no address,
requests cannot be sent to addresses of its kind, or the host does not answer. -/
def sendFailure (endpoint : String) : CatalogError :=
  match Url.read? endpoint with
  | none => .downloadsGeneration "builder error"
  | some url =>
    let failure := if url.takesRequests then "error sending request" else "builder error"
    .downloadsGeneration (failure ++ " for url (" ++ url.text ++ ")")

end Generator

/-- The generators by type of dataset. -/
structure GeneratorRegistry where
  entries : Collection DatasetType Generator := {}
  deriving Inhabited

namespace GeneratorRegistry

/-- The registry with a generator for a type. -/
def register (registry : GeneratorRegistry) (type : DatasetType) (generator : Generator) :
    GeneratorRegistry :=
  ⟨registry.entries.put type generator⟩

/-- The generator for a type; that there is none is an error. -/
def get (registry : GeneratorRegistry) (type : DatasetType) : Result Generator :=
  match registry.entries.get? type with
  | some generator => .ok generator
  | none => .error (.generatorNotConfigured type)

/-- A registered generator is the one of its type. -/
theorem get_register_self (registry : GeneratorRegistry) (type : DatasetType)
    (generator : Generator) : (registry.register type generator).get type = .ok generator := by
  simp [register, get, Collection.get?_put_self]

/-- Registering a generator does not touch the other types. -/
theorem get_register_other (registry : GeneratorRegistry) {type other : DatasetType}
    (differ : other ≠ type) (generator : Generator) :
    (registry.register type generator).get other = registry.get other := by
  simp [register, get, Collection.get?_put_other _ differ]

/-- The registry with a recording generator for each of the given types. -/
def recording (types : List DatasetType) : GeneratorRegistry :=
  types.foldl (fun registry type => registry.register type (.recording type)) {}

/-- The registry of the endpoints that are configured: one for filterable datasets, and one for
all types of Cantabular. -/
def ofEndpoints (filterable cantabular : Option String) : Result GeneratorRegistry := do
  let first ← match filterable with
    | none => .ok {}
    | some endpoint =>
      (Generator.ofEndpoint "cmd" endpoint).map fun generator =>
        GeneratorRegistry.register {} .filterable generator
  match cantabular with
  | none => .ok first
  | some endpoint =>
    (Generator.ofEndpoint "cantabular" endpoint).map fun generator =>
      (DatasetType.all.filter DatasetType.isCantabular).foldl
        (fun registry type => registry.register type generator) first

end GeneratorRegistry

end ReleaseCatalog
