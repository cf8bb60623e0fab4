/-
What entering a state brings with it. Every handler writes the version first; then it runs its
cascade, a fixed sequence of writes to the parents of the version, and last may ask for downloads.
Nothing is undone when a step fails: the writes before it stay, and the caller submits the request
again.
-/

import ReleaseCatalog.Workflow.Persist

namespace ReleaseCatalog

/-- The built-in handlers of target states. -/
inductive Handler where
  /-- Writes the version and nothing else, while it is being drafted. -/
  | draft
  /-- Checks the version once more and writes it. -/
  | editionConfirmed
  /-- Writes the version, and for imported datasets records the association and asks for
  downloads. -/
  | associated
  /-- Writes the version and promotes its edition and its dataset. -/
  | published
  /-- Writes the version when it is abandoned; its parents are not touched. -/
  | terminal
  deriving DecidableEq, Repr

namespace TransitionContext

/-- The type of the version that is to be written. -/
def type (context : TransitionContext) : Result DatasetType :=
  context.candidate.resolvedType

/-- Asks the generator for a type to make the downloads of the version. -/
def generateDownloads (context : TransitionContext) (type : DatasetType) : Steps (Result Unit) :=
  Steps.require (context.generators.get type) fun generator =>
    Steps.generate generator {
      datasetId := context.details.datasetId
      instanceId := context.candidate.id
      edition := context.details.edition
      version := Decimal.text context.details.number.toNat }

/-- Writes the version by the path of its type. -/
def persistByType (context : TransitionContext) : Steps (Result Version) :=
  Steps.require context.type fun type => context.persist (.forStatic type.isStatic)

/-- Promotes the edition of a version that was published. -/
def promoteEdition (context : TransitionContext) (persisted : Version) : Steps (Result Unit) :=
  let details := context.details
  (Steps.store (.getEdition details.datasetId details.edition ETag.any)).andThen fun edition =>
    Steps.now.bind fun now =>
      match edition.promote now persisted.versionLink with
      | (_, .error error) => .done (.error error)
      | (promoted, .ok ()) =>
        Steps.store (.upsertEdition details.datasetId details.edition promoted)

/-- Marks the instance behind a version published; static datasets have none. -/
def publishInstance (isStatic : Bool) (persisted : Version) : Steps (Result Unit) :=
  if isStatic then .done (.ok ()) else Steps.store (.publishInstance persisted.id)

/-- Promotes the dataset, as it was read before the move, with a version that was published. -/
def promoteDataset (context : TransitionContext) (persisted : Version) : Steps (Result Unit) :=
  Steps.now.bind fun now =>
    Steps.store
      (.upsertDataset context.details.datasetId (context.dataset.promote now persisted))

/-- Whether a CSV file of the version is public already. -/
def hasPublicCsv (persisted : Version) : Bool :=
  match persisted.downloads with
  | some downloads => downloads.hasPublicCsv
  | none => false

/-- Publishes the version: after the write come the edition, the instance and the dataset, in this
order, and last the downloads if no CSV file is public yet. -/
def publish (context : TransitionContext) : Steps (Result Version) :=
  Steps.require context.candidate.validate fun () =>
  Steps.require context.type fun type =>
  (context.persist (.forStatic type.isStatic)).andThen fun persisted =>
  (context.promoteEdition persisted).andThen fun () =>
  (publishInstance type.isStatic persisted).andThen fun () =>
  (Steps.store (.getDatasetType context.details.datasetId true)).andThen fun datasetType =>
  (context.promoteDataset persisted).andThen fun () =>
  if !hasPublicCsv persisted && !context.hasDownloads && !type.isStatic then
    (context.generateDownloads datasetType).andThen fun () => .done (.ok persisted)
  else .done (.ok persisted)

/-- Puts the version into a collection: for imported datasets the association is recorded on the
dataset, and downloads are asked for unless the caller has them. -/
def associate (context : TransitionContext) : Steps (Result Version) :=
  Steps.require context.candidate.validate fun () =>
  Steps.require context.type fun type =>
  (context.persist (.forStatic type.isStatic)).andThen fun persisted =>
  if type.isStatic then .done (.ok persisted)
  else
    (Steps.store (.associate context.details.datasetId .associated persisted)).andThen fun () =>
    if context.hasDownloads then .done (.ok persisted)
    else (context.generateDownloads type).andThen fun () => .done (.ok persisted)

end TransitionContext

namespace Handler

/-- The steps of a handler; they answer the version that was written. -/
def steps (context : TransitionContext) : Handler → Steps (Result Version)
  | draft => context.persistByType
  | editionConfirmed =>
    Steps.require context.candidate.validate fun () => context.persistByType
  | associated => context.associate
  | published => context.publish
  | terminal => context.persistByType

/-- The handler that a target state has unless another one is put in its place. -/
def default : State → Handler
  | .created | .submitted | .completed => draft
  | .editionConfirmed => editionConfirmed
  | .associated => associated
  | .published => published
  | .detached | .failed => terminal

end Handler

/-- Which of the built-in handlers each target state has. -/
structure HandlerRegistry where
  handler : State → Handler := Handler.default

namespace HandlerRegistry

instance : Inhabited HandlerRegistry := ⟨{}⟩

/-- The registry with another handler for a state. -/
def register (registry : HandlerRegistry) (state : State) (handler : Handler) : HandlerRegistry :=
  ⟨fun target => if target = state then handler else registry.handler target⟩

/-- A registered handler is the one of its state. -/
theorem handler_register_self (registry : HandlerRegistry) (state : State) (handler : Handler) :
    (registry.register state handler).handler state = handler := by
  simp [register]

/-- Registering a handler does not touch the other states. -/
theorem handler_register_other (registry : HandlerRegistry) {state other : State}
    (differ : other ≠ state) (handler : Handler) :
    (registry.register state handler).handler other = registry.handler other := by
  simp [register, differ]

end HandlerRegistry

end ReleaseCatalog
