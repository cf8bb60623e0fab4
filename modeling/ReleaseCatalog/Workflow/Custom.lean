/-
Workflows with handlers of any kind. A machine has one of the built-in handlers for each state; here
a state may have any program over the context of the move. Such a handler may do what a request may:
it calls the store, and it can ask for locks of its own and give locks back. Its calls are kept
apart from those of the workflow, so that a statement can be about these or about both.
-/

import ReleaseCatalog.Workflow.Amend

namespace ReleaseCatalog

/-- What is done on entering a state; it answers the version that was written. -/
abbrev StateHandler := TransitionContext → Request (Result Version)

/-- A built-in handler as one of any kind. -/
def Handler.toStateHandler (handler : Handler) : StateHandler :=
  fun context => Request.ofSteps (handler.steps context)

/-- The handlers by target state, of any kind. -/
structure StateHandlers where
  handler : State → StateHandler := fun target => (Handler.default target).toStateHandler

/-- The registry with another handler for a state. -/
def StateHandlers.register (handlers : StateHandlers) (state : State) (handler : StateHandler) :
    StateHandlers :=
  ⟨fun target => if target = state then handler else handlers.handler target⟩

/-- A registry of built-in handlers as one of handlers of any kind. -/
def HandlerRegistry.toStateHandlers (registry : HandlerRegistry) : StateHandlers :=
  ⟨fun target => (registry.handler target).toStateHandler⟩

/-- A call that a workflow makes itself, or one that its handler makes. -/
inductive WorkflowCall where
  | own (call : Call)
  | handler (call : Call)
  /-- A call of the handler that is given up, and the handler with it, when it has not been over by
  the expiry. -/
  | handlerBefore (expiry : Instant) (call : Call)

/-- What a call of a workflow answers; one that was given up answers nothing. -/
def WorkflowCall.Answer : WorkflowCall → Type
  | own call => call.Answer
  | handler call => call.Answer
  | handlerBefore _ call => Option call.Answer

/-- A whole request of a workflow. -/
abbrev WorkflowRequest (α : Type) := Program WorkflowCall WorkflowCall.Answer α

namespace WorkflowRequest

/-- What the workflow does itself. -/
def own (request : Request α) : WorkflowRequest α :=
  request.relabel WorkflowCall.own fun _ answer => answer

/-- What the handler does, without a deadline. -/
def handle (request : Request α) : WorkflowRequest α :=
  request.relabel WorkflowCall.handler fun _ answer => answer

/-- What the handler does until the expiry: nothing is answered if a call of it was given up. -/
def handleBefore (expiry : Instant) : Request α → WorkflowRequest (Option α)
  | .done result => .done (some result)
  | .step call next =>
    .step (.handlerBefore expiry call) fun
      | some answer => handleBefore expiry (next answer)
      | none => .done none

end WorkflowRequest

/-- A publishing workflow with handlers of any kind. -/
structure Workflow where
  transitions : TransitionTable := .builtIn
  handlers : StateHandlers := {}
  generators : GeneratorRegistry := {}
  deadline : Option Duration := none

/-- A machine as a workflow with handlers of any kind. -/
def Machine.toWorkflow (machine : Machine) : Workflow where
  transitions := machine.transitions
  handlers := machine.handlers.toStateHandlers
  generators := machine.generators
  deadline := machine.deadline

namespace Workflow

open WorkflowRequest

/-- What comes before the handler under the lock: the dataset, the edition and the version are read,
and it is decided on the move of the candidate. -/
def prepare (workflow : Workflow) (details : VersionDetails) (update : Version)
    (options : AmendOptions) : Steps (Result (State × TransitionContext)) :=
  (Steps.store (.getDataset details.datasetId)).andThen fun dataset =>
  (Steps.store (.checkEdition details.datasetId details.edition none)).andThen fun () =>
  (Steps.store
      (.getVersion details.datasetId details.edition details.number options.ifMatch)).andThen
    fun current =>
      let candidate := Version.combine current update
      Steps.require (TransitionContext.checkMove workflow.transitions current candidate) fun () =>
      match candidate.state with
      | none => .done (.error .missingState)
      | some target =>
        .done (.ok (target, {
          generators := workflow.generators
          transitions := workflow.transitions
          details := details
          dataset := dataset
          current := current
          candidate := candidate
          update := update
          ifMatch := options.ifMatch
          hasDownloads := options.hasDownloads }))

/-- What is done under the lock without a deadline. -/
def locked (workflow : Workflow) (details : VersionDetails) (update : Version)
    (options : AmendOptions) : WorkflowRequest (Result Version) :=
  (own (Request.ofSteps (workflow.prepare details update options))).bind fun
    | .error error => .done (.error error)
    | .ok (target, context) => handle (workflow.handlers.handler target context)

/-- What is done under the lock until the expiry. -/
def lockedBefore (workflow : Workflow) (expiry : Instant) (details : VersionDetails)
    (update : Version) (options : AmendOptions) : WorkflowRequest (Option (Result Version)) :=
  (own (Request.before expiry (workflow.prepare details update options))).bind fun
    | none => .done none
    | some (.error error) => .done (some (.error error))
    | some (.ok (target, context)) =>
      handleBefore expiry (workflow.handlers.handler target context)

/-- What is done under the lock, ended by the deadline if the workflow has one. -/
def lockedInTime (workflow : Workflow) (details : VersionDetails) (update : Version)
    (options : AmendOptions) : WorkflowRequest (Result Version) :=
  match workflow.deadline with
  | none => workflow.locked details update options
  | some deadline =>
    (own (Request.call .instant)).bind fun start =>
      (workflow.lockedBefore (Instant.after start deadline) details update options).bind fun
        | some result => .done result
        | none => .done (.error (.timeout deadline))

/-- The request once it is known which version is meant: lock, steps, handler, unlock. -/
def amendVersion (workflow : Workflow) (details : VersionDetails) (update : Version)
    (options : AmendOptions) : WorkflowRequest (Result Version) :=
  (own (Request.ofSteps (Machine.lockKind details))).bind fun kind =>
    (own (Request.acquire kind details.resourceKey)).bind fun
      | .error error => .done (.error error)
      | .ok token =>
        (workflow.lockedInTime details update options).bind fun result =>
          (own (Request.call (.release kind token))).bind fun () => .done result

/-- Applies an update to the version that the identifiers name, with the handler of the state that
it moves into. -/
def amend (workflow : Workflow) (identifiers : VersionIdentifiers) (update : Version)
    (options : AmendOptions) : WorkflowRequest (Result Version) :=
  match identifiers.resolve with
  | .error error => .done (.error error)
  | .ok details =>
    if update.type ≠ "" ∧ DatasetType.resolve? update.type = none then
      .done (.error .invalidDatasetType)
    else workflow.amendVersion details update options

end Workflow

end ReleaseCatalog
