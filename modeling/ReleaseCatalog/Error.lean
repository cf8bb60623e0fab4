/-
What can go wrong when a catalog is read or amended, the message for each cause, and the coarse
kind that callers act upon. A conflict is the one error after which another attempt makes sense.
-/

import ReleaseCatalog.State
import ReleaseCatalog.DatasetType
import ReleaseCatalog.Time.Duration

namespace ReleaseCatalog

/-- The coarse kind of an error. -/
inductive ErrorKind where
  | notFound
  | invalidInput
  | stateTransitionNotAllowed
  | conflict
  | dependencyFailure
  | internal
  deriving DecidableEq, Repr

/-- A cause of failure. -/
inductive CatalogError where
  | datasetNotFound
  | editionNotFound
  | versionNotFound
  | instanceNotFound
  | invalidVersionNumber
  | missingIdentifier (field : String)
  | missingState
  | invalidState (text : String)
  | missingMandatoryFields (fields : List String)
  | invalidDatasetType
  | stateTransitionNotAllowed
  | missingVersionLink
  /-- The stored document is no longer the one that the selector names. -/
  | conflict (resource selector : String)
  | lockAcquisition (key reason : String)
  | generatorNotConfigured (type : DatasetType)
  | downloadsGeneration (detail : String)
  | timeout (deadline : Duration)
  | invalidConfig (detail : String)
  /-- A document did not decode. -/
  | serialization
  | database
  deriving DecidableEq, Repr, Inhabited

/-- The name of a kind. -/
def ErrorKind.name : ErrorKind → String
  | notFound => "NotFound"
  | invalidInput => "InvalidInput"
  | stateTransitionNotAllowed => "StateTransitionNotAllowed"
  | conflict => "Conflict"
  | dependencyFailure => "DependencyFailure"
  | internal => "Internal"

namespace CatalogError

/-- The kind of an error. -/
def kind : CatalogError → ErrorKind
  | datasetNotFound | editionNotFound | versionNotFound | instanceNotFound => .notFound
  | invalidVersionNumber | missingIdentifier _ | missingState | invalidState _
  | missingMandatoryFields _ | invalidDatasetType | missingVersionLink => .invalidInput
  | stateTransitionNotAllowed => .stateTransitionNotAllowed
  | conflict _ _ => .conflict
  | lockAcquisition _ _ | generatorNotConfigured _ | downloadsGeneration _ | timeout _
  | database => .dependencyFailure
  | invalidConfig _ | serialization => .internal

/-- The name of a cause, for programs that have to tell the causes apart. -/
def name : CatalogError → String
  | datasetNotFound => "DatasetNotFound"
  | editionNotFound => "EditionNotFound"
  | versionNotFound => "VersionNotFound"
  | instanceNotFound => "InstanceNotFound"
  | invalidVersionNumber => "InvalidVersionNumber"
  | missingIdentifier _ => "MissingIdentifier"
  | missingState => "MissingState"
  | invalidState _ => "InvalidState"
  | missingMandatoryFields _ => "MissingMandatoryFields"
  | invalidDatasetType => "InvalidDatasetType"
  | stateTransitionNotAllowed => "StateTransitionNotAllowed"
  | missingVersionLink => "MissingVersionLink"
  | conflict _ _ => "Conflict"
  | lockAcquisition _ _ => "LockAcquisition"
  | generatorNotConfigured _ => "GeneratorNotConfigured"
  | downloadsGeneration _ => "DownloadsGeneration"
  | timeout _ => "Timeout"
  | invalidConfig _ => "InvalidConfig"
  | serialization => "Serialization"
  | database => "Database"

/-- The message for people. -/
def message : CatalogError → String
  | datasetNotFound => "dataset not found"
  | editionNotFound => "edition not found"
  | versionNotFound => "version not found"
  | instanceNotFound => "instance not found"
  | invalidVersionNumber => "invalid version requested"
  | missingIdentifier field => "missing identifier: " ++ field
  | missingState => "missing state"
  | invalidState text => "invalid state: " ++ text
  | missingMandatoryFields fields =>
    "missing mandatory fields: [" ++ String.intercalate " " fields ++ "]"
  | invalidDatasetType => "invalid dataset type"
  | stateTransitionNotAllowed => "state not allowed to transition"
  | missingVersionLink => "invalid arguments to PublishLinks - versionLink empty"
  | conflict resource selector =>
    "version " ++ resource ++ " has been modified: etag " ++ selector ++ " does not match"
  | lockAcquisition key reason => "failed to acquire lock on " ++ key ++ ": " ++ reason
  | generatorNotConfigured type =>
    "no downloads generator configured for dataset type " ++ type.name
  | downloadsGeneration detail => "downloads generation failed: " ++ detail
  | timeout deadline => "request deadline of " ++ deadline.text ++ " exceeded"
  | invalidConfig detail => "invalid configuration: " ++ detail
  | serialization => "serialization error"
  | database => "database error"

/-- A conflict is a write that lost a race. -/
def isConflict : CatalogError → Bool
  | conflict _ _ => true
  | _ => false

/-- Only after a conflict can a second attempt succeed where the first did not. -/
def isRetryable (error : CatalogError) : Bool :=
  error.isConflict

end CatalogError

/-- The outcome of an operation on the catalog. -/
abbrev Result (α : Type) := Except CatalogError α

/-- The state with a given name; an unknown name is an error that carries it. -/
def State.parse (text : String) : Result State :=
  match State.ofName? text with
  | some state => .ok state
  | none => .error (.invalidState text)

/-- The type that a text names. -/
def DatasetType.resolve (text : String) : Result DatasetType :=
  match DatasetType.resolve? text with
  | some type => .ok type
  | none => .error .invalidDatasetType

end ReleaseCatalog
