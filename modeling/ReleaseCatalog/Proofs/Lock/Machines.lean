/-
Locks of machines. A machine is a workflow whose handlers are built in, and what is known of the
locks of workflows carries over to it: every run of a request of the machine is, event by event, one
of the workflow, in which the handler did nothing about locks.
-/

import Mathlib.Data.List.Forall2
import ReleaseCatalog.Proofs.Lock.Symmetry

namespace ReleaseCatalog

open Program (Event Runs)

/-- Requests on a disturbed site, with others there who can do given things. -/
def Request.disturbedBy (outside : Site → Site → Prop) : Program.Setting Call.Answer Site where
  answers call site answer after := site.Answers call answer after
  outside := outside

namespace LockDeed

/-- What was done about locks, one after another. -/
def deeds (events : List (Event Call.Answer Site)) : List LockDeed :=
  events.filterMap fun event => of? event.call event.answer

end LockDeed

/-! ### Forgetting who calls -/

namespace WorkflowDeed

/-- What was not done by the handler was done by the workflow itself. -/
theorem of?_answer {call : WorkflowCall} (answer : call.plain.Answer)
    (quiet : ∀ deed, of? call (call.answer answer) ≠ some (handler deed)) :
    of? call (call.answer answer) = (LockDeed.of? call.plain answer).map own := by
  cases call with
  | own call => rfl
  | handler call =>
    cases call with
    | act | actBefore | instant => rfl
    | acquire | hold | release => exact absurd rfl (quiet _)
  | handlerBefore expiry call =>
    cases call with
    | act | actBefore | instant => rfl
    | acquire | hold | release => exact absurd rfl (quiet _)

end WorkflowDeed

namespace Workflow

open WorkflowRequest
open WorkflowDeed (deeds deeds_append)

variable {outside : Site → Site → Prop} {site last : Site}

/-- A call of a workflow was answered as the call that it is, whoever makes it. -/
theorem replies_of_answers {call : WorkflowCall} {answer : call.plain.Answer} {before after : Site}
    (answered : before.Answers call.plain answer after) :
    before.Replies call (call.answer answer) after := by
  cases call with
  | own call => exact .own answered
  | handler call => exact .handler answered
  | handlerBefore expiry call =>
    cases call with
    | act action =>
      cases answered with
      | inTime _ carried => exact .inTime expiry (.act carried)
      | late _ given => exact .late expiry (.act given)
    | actBefore | instant | acquire | hold | release => exact .inTime expiry answered

/-- An event of a workflow is told as one of a request when it is forgotten who made the call. -/
def Tells (told : Event WorkflowCall.Answer Site) (event : Event Call.Answer Site) : Prop :=
  ∃ answer : told.call.plain.Answer,
    told.answer = told.call.answer answer ∧ event = ⟨told.call.plain, answer, told.before, told.after⟩

/-- Every run of the plain request is one of the workflow, event by event. -/
theorem exists_runs_of_plain {α : Type} {request : WorkflowRequest α} {plainRequest : Request α}
    {outcome : Option α} {events : List (Event Call.Answer Site)}
    (run : Runs (Request.disturbedBy outside) plainRequest site events outcome last)
    (same : plain request = plainRequest) :
    ∃ told, Runs (disturbedBy outside) request site told outcome last ∧
      List.Forall₂ Tells told events := by
  induction run generalizing request with
  | done result state =>
    cases request with
    | done other =>
      cases same
      exact ⟨[], .done result state, .nil⟩
    | step call next => cases same
  | stop call next state =>
    cases request with
    | done other => cases same
    | step call next => exact ⟨[], .stop call next state, .nil⟩
  | givenUp next given => cases given
  | outside changed _ inductionHypothesis =>
    obtain ⟨told, run, tells⟩ := inductionHypothesis same
    exact ⟨told, .outside changed run, tells⟩
  | step answered _ inductionHypothesis =>
    cases request with
    | done other => cases same
    | step call next =>
      cases same
      obtain ⟨told, run, tells⟩ := inductionHypothesis rfl
      exact ⟨_ :: told, .step (replies_of_answers answered) run, .cons ⟨_, rfl, rfl⟩ tells⟩

/-- Where the handler did nothing about locks, it can be forgotten who did what. -/
theorem deeds_of_tells {told : List (Event WorkflowCall.Answer Site)}
    {events : List (Event Call.Answer Site)} (tells : List.Forall₂ Tells told events)
    (quiet : ∀ call, .handler call ∉ deeds told) :
    deeds told = (LockDeed.deeds events).map .own := by
  induction tells with
  | nil => rfl
  | @cons first _ rest _ tells _ inductionHypothesis =>
    obtain ⟨answer, same, rfl⟩ := tells
    have split : deeds (first :: rest) = deeds [first] ++ deeds rest := deeds_append [first] rest
    rw [split] at quiet
    have later := inductionHypothesis fun call member =>
      quiet call (List.mem_append_right _ member)
    have own : WorkflowDeed.of? first.call first.answer =
        (LockDeed.of? first.call.plain answer).map .own := by
      rw [same]
      refine WorkflowDeed.of?_answer answer fun call told => ?_
      refine quiet call (List.mem_append_left _ (List.mem_filterMap.mpr ⟨first, ?_, ?_⟩))
      · exact List.mem_cons_self
      · rw [same]
        exact told
    rw [deeds] at later
    simp only [deeds, LockDeed.deeds, List.filterMap_cons, own, later]
    cases LockDeed.of? first.call.plain answer <;> rfl

end Workflow

/-! ### Requests of machines -/

namespace Machine

variable {machine : Machine} {details : VersionDetails} {update : Version} {options : AmendOptions}
  {outside : Site → Site → Prop} {site last : Site} {events : List (Event Call.Answer Site)}

/-- A request of a machine that knows its version asks for one lock, and gives back what it was
given; it does nothing else about locks. -/
theorem deeds_amendVersion {result : Result Version}
    (run : Runs (Request.disturbedBy outside) (machine.amendVersion details update options) site
      events (some result) last) :
    ∃ kind, (∃ error, LockDeed.deeds events = [.asked kind details.resourceKey (.error error)]) ∨
      ∃ token, LockDeed.deeds events =
          [.asked kind details.resourceKey (.ok token), .gaveBack kind token] ∧
        ((∀ site after, outside site after → site.arena.held.get? token = none →
            after.arena.held.get? token = none) →
          last.arena.held.get? token = none) := by
  obtain ⟨told, run, tells⟩ :=
    Workflow.exists_runs_of_plain run (machine.plain_amendVersion details update options)
  have forget {deeds : List LockDeed} (same : WorkflowDeed.deeds told = deeds.map .own) :
      LockDeed.deeds events = deeds := by
    have quiet : ∀ call, .handler call ∉ WorkflowDeed.deeds told := by
      rw [same]
      exact fun call member => by simp at member
    exact (List.map_inj_right fun _ _ => WorkflowDeed.own.inj).mp
      ((Workflow.deeds_of_tells tells quiet).symm.trans same)
  obtain ⟨kind, ⟨error, asked⟩ | ⟨token, handled, balanced, leave, free⟩⟩ :=
    Workflow.deeds_amendVersion run
  · exact ⟨kind, .inl ⟨error, forget asked⟩⟩
  · rw [leave machine.handlers.leaveLocks] at balanced
    exact ⟨kind, .inr ⟨token, forget balanced, free⟩⟩

end Machine

end ReleaseCatalog
