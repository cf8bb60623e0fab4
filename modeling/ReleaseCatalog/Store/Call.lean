/-
The calls that the publishing workflow makes on a store, each with the type of its answer. A call
is data, so that a workflow can be written once and run against any store, and so that stores can
be compared call by call.
-/

import ReleaseCatalog.ETag

namespace ReleaseCatalog

/-- Which of the two writes of a version is used: the generic one carries the new state over to
the backing instance, the static one knows of no instance. -/
inductive WritePath where
  | generic
  | static
  deriving DecidableEq, Repr

/-- Static datasets take the static write. -/
def WritePath.forStatic (isStatic : Bool) : WritePath :=
  if isStatic then .static else .generic

/-- Which lock guards a version: the one of its import instance, or for static datasets the one of
the collection of versions. Both share one space of keys. -/
inductive LockKind where
  | instances
  | versions
  deriving DecidableEq, Repr

/-- The lock that guards the versions of datasets of a type. -/
def LockKind.forType (type : DatasetType) : LockKind :=
  if type.isStatic then .versions else .instances

/-- A call on a store. -/
inductive StoreCall where
  | getDataset (id : String)
  | upsertDataset (id : String) (document : Dataset)
  /-- Writes the association of a version into the Next half of a dataset. -/
  | associate (datasetId : String) (state : State) (version : Version)
  /-- The type of a dataset as authorised or public readers see it. -/
  | getDatasetType (datasetId : String) (authorised : Bool)
  | getEdition (datasetId edition eTag : String)
  | upsertEdition (datasetId edition : String) (document : Edition)
  /-- Whether an edition exists and, if a state is given, has it published. -/
  | checkEdition (datasetId edition : String) (state : Option State)
  | addVersion (version : Version)
  | getVersion (datasetId edition : String) (number : UInt32) (eTag : String)
  /-- Replaces the stored version in the slot of `current` if its tag is admitted. -/
  | updateVersion (path : WritePath) (current candidate : Version) (selector : String)
  | getInstance (id : String)
  | publishInstance (id : String)

namespace StoreCall

/-- What a call answers when it succeeds; writes of versions answer the new tag. -/
def Value : StoreCall → Type
  | getDataset _ => Dataset
  | upsertDataset _ _ => Unit
  | associate _ _ _ => Unit
  | getDatasetType _ _ => DatasetType
  | getEdition _ _ _ => Edition
  | upsertEdition _ _ _ => Unit
  | checkEdition _ _ _ => Unit
  | addVersion _ => String
  | getVersion _ _ _ _ => Version
  | updateVersion _ _ _ _ => String
  | getInstance _ => Instance
  | publishInstance _ => Unit

/-- What a call answers. -/
abbrev Answer (call : StoreCall) : Type := Result call.Value

end StoreCall

/-- The methods of a store: one for each kind of call, the two writes of versions apart, and
those of the locks. -/
inductive StoreMethod where
  | getDataset
  | upsertDataset
  | associate
  | getDatasetType
  | getEdition
  | upsertEdition
  | checkEdition
  | addVersion
  | getVersion
  | updateVersion
  | updateVersionStatic
  | getInstance
  | publishInstance
  | acquireInstanceLock
  | unlockInstance
  | acquireVersionsLock
  | unlockVersions
  deriving DecidableEq, Repr

namespace StoreMethod

/-- All methods. -/
def all : List StoreMethod :=
  [getDataset, upsertDataset, associate, getDatasetType, getEdition, upsertEdition, checkEdition,
    addVersion, getVersion, updateVersion, updateVersionStatic, getInstance, publishInstance,
    acquireInstanceLock, unlockInstance, acquireVersionsLock, unlockVersions]

/-- The name of a method. -/
def name : StoreMethod → String
  | getDataset => "get_dataset"
  | upsertDataset => "upsert_dataset"
  | associate => "update_dataset_with_association"
  | getDatasetType => "get_dataset_type"
  | getEdition => "get_edition"
  | upsertEdition => "upsert_edition"
  | checkEdition => "check_edition_exists"
  | addVersion => "add_version"
  | getVersion => "get_version"
  | updateVersion => "update_version"
  | updateVersionStatic => "update_version_static"
  | getInstance => "get_instance"
  | publishInstance => "set_instance_is_published"
  | acquireInstanceLock => "acquire_instance_lock"
  | unlockInstance => "unlock_instance"
  | acquireVersionsLock => "acquire_versions_lock"
  | unlockVersions => "unlock_versions"

/-- The method with a given name. -/
def ofName? (text : String) : Option StoreMethod :=
  all.find? fun method => method.name == text

/-- The method that takes a lock. -/
def acquire : LockKind → StoreMethod
  | .instances => acquireInstanceLock
  | .versions => acquireVersionsLock

/-- The method that gives a lock back. -/
def unlock : LockKind → StoreMethod
  | .instances => unlockInstance
  | .versions => unlockVersions

end StoreMethod

/-- The method that a call is of. -/
def StoreCall.method : StoreCall → StoreMethod
  | getDataset _ => .getDataset
  | upsertDataset _ _ => .upsertDataset
  | associate _ _ _ => .associate
  | getDatasetType _ _ => .getDatasetType
  | getEdition _ _ _ => .getEdition
  | upsertEdition _ _ _ => .upsertEdition
  | checkEdition _ _ _ => .checkEdition
  | addVersion _ => .addVersion
  | getVersion _ _ _ _ => .getVersion
  | updateVersion .generic _ _ _ => .updateVersion
  | updateVersion .static _ _ _ => .updateVersionStatic
  | getInstance _ => .getInstance
  | publishInstance _ => .publishInstance

end ReleaseCatalog
