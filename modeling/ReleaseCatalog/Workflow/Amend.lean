/-
The publishing workflow: one request applies one update to one version and moves it into the state
that the update asks for.

The version is locked before it or its parents are read, so that two requests on one version never
decide from the same stored state; only the type of the dataset is looked up before, to choose the
kind of lock. The lock is given back once, whatever happened to the steps under it, also when they
missed their deadline.
-/

import ReleaseCatalog.Workflow.Handler

namespace ReleaseCatalog

/-- How a request wants to be carried out. -/
structure AmendOptions where
  /-- The selector with which the version is read. -/
  ifMatch : String := ETag.any
  /-- The caller says that downloads exist already, so that none are asked for. -/
  hasDownloads : Bool := false
  deriving DecidableEq, Repr

/-- A publishing workflow: its rules, its handlers, its generators, and the time that the steps
under the lock may take. -/
structure Machine where
  transitions : TransitionTable := .builtIn
  handlers : HandlerRegistry := {}
  generators : GeneratorRegistry := {}
  deadline : Option Duration := none
  deriving Inhabited

namespace Machine

/-- The kind of lock for a version. When the type of the dataset cannot be looked up the lock of
the instance will do: both kinds share their keys, and the steps under it meet the same error. -/
def lockKind (details : VersionDetails) : Steps LockKind :=
  (Steps.store (.getDatasetType details.datasetId true)).bind fun
    | .ok type => .done (LockKind.forType type)
    | .error _ => .done .instances

/-- Decides on the move of a candidate and carries it out. -/
def move (machine : Machine) (details : VersionDetails) (update : Version)
    (options : AmendOptions) (dataset : Dataset) (current : Version) : Steps (Result Version) :=
  let candidate := Version.combine current update
  Steps.require (TransitionContext.checkMove machine.transitions current candidate) fun () =>
  match candidate.state with
  | none => .done (.error .missingState)
  | some target =>
    (machine.handlers.handler target).steps {
      generators := machine.generators
      transitions := machine.transitions
      details := details
      dataset := dataset
      current := current
      candidate := candidate
      update := update
      ifMatch := options.ifMatch
      hasDownloads := options.hasDownloads }

/-- The steps under the lock: read the dataset, the edition and the version, and move it. -/
def locked (machine : Machine) (details : VersionDetails) (update : Version)
    (options : AmendOptions) : Steps (Result Version) :=
  (Steps.store (.getDataset details.datasetId)).andThen fun dataset =>
  (Steps.store (.checkEdition details.datasetId details.edition none)).andThen fun () =>
  (Steps.store
      (.getVersion details.datasetId details.edition details.number options.ifMatch)).andThen
    fun current => machine.move details update options dataset current

/-- The steps under the lock, ended by the deadline if the workflow has one. -/
def lockedInTime (machine : Machine) (details : VersionDetails) (update : Version)
    (options : AmendOptions) : Request (Result Version) :=
  let steps := machine.locked details update options
  match machine.deadline with
  | none => Request.ofSteps steps
  | some deadline =>
    (Request.call .instant).bind fun start =>
      (Request.before (Instant.after start deadline) steps).bind fun
        | some result => .done result
        | none => .done (.error (.timeout deadline))

/-- The request once it is known which version is meant: lock, steps, unlock. -/
def amendVersion (machine : Machine) (details : VersionDetails) (update : Version)
    (options : AmendOptions) : Request (Result Version) :=
  (Request.ofSteps (lockKind details)).bind fun kind =>
    (Request.call (.acquire kind details.resourceKey)).bind fun
      | .error error => .done (.error error)
      | .ok token =>
        (machine.lockedInTime details update options).bind fun result =>
          (Request.call (.release kind token)).bind fun () => .done result

/-- Applies an update to the version that the identifiers name. The type of an update is not
merged, but if it gives one it must be a known one. -/
def amend (machine : Machine) (identifiers : VersionIdentifiers) (update : Version)
    (options : AmendOptions) : Request (Result Version) :=
  match identifiers.resolve with
  | .error error => .done (.error error)
  | .ok details =>
    if update.type ≠ "" ∧ DatasetType.resolve? update.type = none then
      .done (.error .invalidDatasetType)
    else machine.amendVersion details update options

end Machine

end ReleaseCatalog
