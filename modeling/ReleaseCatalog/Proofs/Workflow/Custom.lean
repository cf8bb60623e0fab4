/-
A machine is a workflow with handlers of any kind. When it is forgotten which of the calls the
handler makes, a request of the workflow that a machine stands for is the request of the machine,
call by call, with a deadline and without one.
-/

import ReleaseCatalog.Proofs.Program.Requests
import ReleaseCatalog.Workflow.Custom

namespace ReleaseCatalog

/-! ### Programs in sequence -/

namespace Program

variable {Call Other : Type} {Answer : Call → Type} {Reply : Other → Type} {α β : Type}

theorem relabel_bind (rename : Call → Other)
    (answer : (request : Call) → Reply (rename request) → Answer request)
    (program : Program Call Answer α) (continuation : α → Program Call Answer β) :
    (program.bind continuation).relabel rename answer =
      (program.relabel rename answer).bind fun result =>
        (continuation result).relabel rename answer := by
  induction program with
  | done result => rfl
  | step call next inductionHypothesis =>
    exact congrArg (step (rename call)) (funext fun reply => inductionHypothesis _)

end Program

/-- Steps that are given up end those that would follow as well. -/
theorem Request.before_bind {α β : Type} (expiry : Instant) (steps : Steps α)
    (continuation : α → Steps β) :
    before expiry (steps.bind continuation) = (before expiry steps).bind fun
      | some result => before expiry (continuation result)
      | none => .done none := by
  induction steps with
  | done result => rfl
  | step action next inductionHypothesis =>
    simp only [Program.bind, before]
    refine congrArg (Program.step (Call.actBefore expiry action)) (funext fun answer => ?_)
    cases answer with
    | none => rfl
    | some answer => exact inductionHypothesis answer

/-! ### Built-in handlers among all -/

namespace HandlerRegistry

theorem toStateHandlers_default : (default : HandlerRegistry).toStateHandlers = {} := rfl

/-- A built-in handler is registered as any other is. -/
theorem toStateHandlers_register (registry : HandlerRegistry) (state : State) (handler : Handler) :
    (registry.register state handler).toStateHandlers =
      registry.toStateHandlers.register state handler.toStateHandler := by
  refine congrArg StateHandlers.mk (funext fun target => ?_)
  by_cases same : target = state
  · rw [if_pos same, same, handler_register_self]
  · rw [if_neg same, handler_register_other registry same]
    rfl

end HandlerRegistry

/-! ### Forgetting who calls -/

/-- The call that is made, whoever makes it. -/
def WorkflowCall.plain : WorkflowCall → Call
  | own call => call
  | handler call => call
  | handlerBefore expiry (.act action) => .actBefore expiry action
  | handlerBefore _ call => call

/-- What the call answers to whoever makes it. -/
def WorkflowCall.answer : (call : WorkflowCall) → call.plain.Answer → call.Answer
  | own _, answer => answer
  | handler _, answer => answer
  | handlerBefore _ (.act _), answer => answer
  | handlerBefore _ (.actBefore _ _), answer => some answer
  | handlerBefore _ .instant, answer => some answer
  | handlerBefore _ (.acquire _ _), answer => some answer
  | handlerBefore _ (.hold _), answer => some answer
  | handlerBefore _ (.release _ _), answer => some answer

namespace WorkflowRequest

variable {α β : Type}

/-- The request without a note of who makes its calls. -/
def plain (request : WorkflowRequest α) : Request α :=
  request.relabel WorkflowCall.plain WorkflowCall.answer

theorem plain_bind (request : WorkflowRequest α) (continuation : α → WorkflowRequest β) :
    plain (request.bind continuation) =
      (plain request).bind fun result => plain (continuation result) :=
  Program.relabel_bind _ _ request continuation

theorem plain_own (request : Request α) : plain (own request) = request := by
  induction request with
  | done result => rfl
  | step call next inductionHypothesis =>
    exact congrArg (Program.step call) (funext inductionHypothesis)

theorem plain_handle (request : Request α) : plain (handle request) = request := by
  induction request with
  | done result => rfl
  | step call next inductionHypothesis =>
    exact congrArg (Program.step call) (funext inductionHypothesis)

/-- A handler that only takes actions is ended by the deadline as the steps are. -/
theorem plain_handleBefore (expiry : Instant) (steps : Steps α) :
    plain (handleBefore expiry (Request.ofSteps steps)) = Request.before expiry steps := by
  induction steps with
  | done result => rfl
  | step action next inductionHypothesis =>
    show plain (handleBefore expiry (.step (.act action) fun answer =>
      Request.ofSteps (next answer))) = _
    unfold handleBefore Request.before
    refine congrArg (Program.step (Call.actBefore expiry action)) (funext fun answer => ?_)
    cases answer with
    | none => rfl
    | some answer => exact inductionHypothesis answer

end WorkflowRequest

namespace Machine

open WorkflowRequest

variable (machine : Machine) (details : VersionDetails) (update : Version) (options : AmendOptions)

/-- The steps of a machine are those before the handler and those of the handler. -/
theorem locked_eq_prepare : machine.locked details update options =
    (machine.toWorkflow.prepare details update options).andThen fun (target, context) =>
      (machine.handlers.handler target).steps context := by
  unfold locked Workflow.prepare
  simp only [Steps.andThen_assoc, Steps.require_andThen]
  refine congrArg (Steps.andThen _) (funext fun dataset => ?_)
  refine congrArg (Steps.andThen _) (funext fun () => ?_)
  refine congrArg (Steps.andThen _) (funext fun current => ?_)
  refine Steps.require_congr fun () _ => ?_
  cases (Version.combine current update).state <;> rfl

theorem plain_locked : plain (machine.toWorkflow.locked details update options) =
    Request.ofSteps (machine.locked details update options) := by
  unfold Workflow.locked Request.ofSteps
  rw [plain_bind, plain_own, locked_eq_prepare]
  refine .trans ?_ (Program.relabel_bind _ _ _ _).symm
  refine congrArg (Program.bind _) (funext fun prepared => ?_)
  match prepared with
  | .error error => rfl
  | .ok (target, context) => exact plain_handle _

theorem plain_lockedBefore (expiry : Instant) :
    plain (machine.toWorkflow.lockedBefore expiry details update options) =
      Request.before expiry (machine.locked details update options) := by
  unfold Workflow.lockedBefore
  rw [plain_bind, plain_own, locked_eq_prepare]
  refine .trans ?_ (Request.before_bind expiry _ _).symm
  refine congrArg (Program.bind _) (funext fun prepared => ?_)
  match prepared with
  | none => rfl
  | some (.error error) => rfl
  | some (.ok (target, context)) => exact plain_handleBefore expiry _

theorem plain_lockedInTime : plain (machine.toWorkflow.lockedInTime details update options) =
    machine.lockedInTime details update options := by
  unfold Workflow.lockedInTime lockedInTime
  rw [show machine.toWorkflow.deadline = machine.deadline from rfl]
  cases machine.deadline with
  | none => exact machine.plain_locked details update options
  | some deadline =>
    refine (plain_bind _ _).trans ?_
    rw [plain_own]
    refine congrArg (Program.bind _) (funext fun start => ?_)
    rw [plain_bind, plain_lockedBefore]
    refine congrArg (Program.bind _) (funext fun outcome => ?_)
    cases outcome <;> rfl

theorem plain_amendVersion : plain (machine.toWorkflow.amendVersion details update options) =
    machine.amendVersion details update options := by
  unfold Workflow.amendVersion amendVersion
  rw [plain_bind, plain_own]
  refine congrArg (Program.bind _) (funext fun kind => ?_)
  rw [plain_bind, plain_own]
  refine congrArg (Program.bind _) (funext fun attempt => ?_)
  match attempt with
  | .error error => rfl
  | .ok token =>
    refine (plain_bind _ _).trans ?_
    rw [plain_lockedInTime]
    rfl

/-- A request of a machine is one of the workflow that it stands for, whoever makes its calls. -/
theorem plain_amend (identifiers : VersionIdentifiers) :
    plain (machine.toWorkflow.amend identifiers update options) =
      machine.amend identifiers update options := by
  unfold Workflow.amend amend
  cases identifiers.resolve with
  | error error => rfl
  | ok details =>
    dsimp only
    split
    · rfl
    · exact machine.plain_amendVersion details update options

end Machine

end ReleaseCatalog
