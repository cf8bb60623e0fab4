/-
The conversation with the store in which a version is written although others may win the race. An
attempt that met a conflict is worth one more: after a pause the version is read again with the
caller's selector, the caller's update is merged anew and checked, and the new candidate is written.
Every other error ends the conversation, and so does every error of the second attempt.

The store may answer whatever it likes. What holds of a program for all answers is found by its
structure, and the retries by an induction on how many are left.
-/

import ReleaseCatalog.Workflow.Persist

namespace ReleaseCatalog

namespace Program

variable {Call : Type} {Answer : Call → Type} {α β σ : Type}

/-- The calls that a program makes when it is carried out, with their answers. -/
def transcript (perform : (call : Call) → σ → Answer call × σ) :
    Program Call Answer α → σ → List (Sigma Answer)
  | done _, _ => []
  | step call next, state =>
    let answered := perform call state
    ⟨call, answered.1⟩ :: (next answered.1).transcript perform answered.2

/-- Whatever its calls are answered, the calls of the program with their answers and its result are
as required. -/
def Converses (post : List (Sigma Answer) → α → Prop) : Program Call Answer α → Prop
  | done result => post [] result
  | step call next =>
    ∀ answer, Converses (fun talk result => post (⟨call, answer⟩ :: talk) result) (next answer)

/-- What a program says whatever it is answered, it says when it is carried out. -/
theorem Converses.run {post : List (Sigma Answer) → α → Prop} {program : Program Call Answer α}
    (converses : Converses post program) (perform : (call : Call) → σ → Answer call × σ)
    (state : σ) : post (program.transcript perform state) (program.run perform state).1 := by
  induction program generalizing post state with
  | done result => exact converses
  | step call next inductionHypothesis =>
    exact inductionHypothesis (perform call state).1 (converses (perform call state).1)
      (perform call state).2

theorem Converses.mono {post weaker : List (Sigma Answer) → α → Prop}
    {program : Program Call Answer α} (converses : Converses post program)
    (implies : ∀ talk result, post talk result → weaker talk result) :
    Converses weaker program := by
  induction program generalizing post weaker with
  | done result => exact implies _ _ converses
  | step call next inductionHypothesis =>
    exact fun answer => inductionHypothesis answer (converses answer) fun _ _ => implies _ _

/-- Two programs in sequence converse one after the other. -/
theorem converses_bind {post : List (Sigma Answer) → β → Prop} (program : Program Call Answer α)
    (continuation : α → Program Call Answer β) :
    Converses post (program.bind continuation) ↔
      Converses (fun talk value =>
        Converses (fun more => post (talk ++ more)) (continuation value)) program := by
  induction program generalizing post with
  | done result => exact Iff.rfl
  | step call next inductionHypothesis =>
    exact forall_congr' fun answer => inductionHypothesis answer

end Program

open Program

/-! ### Attempts with retries -/

namespace Steps

variable {α : Type}

/-- A pause, when it is over. -/
def paused : Sigma Action.Answer :=
  ⟨.pause, ()⟩

/-- Attempts with their number, beginning with a given one, until one succeeds, one fails with an
error after which no other is worth it, or no retry is left. -/
def retry (again : CatalogError → Bool) (attempt : Nat → Steps (Result α)) :
    (number retries : Nat) → Steps (Result α)
  | number, 0 => attempt number
  | number, retries + 1 =>
    (attempt number).bind fun
      | .ok value => .done (.ok value)
      | .error error =>
        if again error then pause.bind fun () => retry again attempt (number + 1) retries
        else .done (.error error)

/-- The conversations of attempts with retries, by those of the attempts. -/
inductive Retried (again : CatalogError → Bool)
    (attempt : Nat → List (Sigma Action.Answer) → Result α → Prop) :
    (number retries : Nat) → List (Sigma Action.Answer) → Result α → Prop
  | exhausted {number : Nat} {talk : List (Sigma Action.Answer)} {result : Result α} :
    attempt number talk result → Retried again attempt number 0 talk result
  | succeeded {number retries : Nat} {talk : List (Sigma Action.Answer)} {value : α} :
    attempt number talk (.ok value) → Retried again attempt number retries talk (.ok value)
  | fatal {number retries : Nat} {talk : List (Sigma Action.Answer)} {error : CatalogError} :
    attempt number talk (.error error) → again error = false →
      Retried again attempt number retries talk (.error error)
  | more {number retries : Nat} {talk rest : List (Sigma Action.Answer)} {error : CatalogError}
      {result : Result α} :
    attempt number talk (.error error) → again error = true →
      Retried again attempt (number + 1) retries rest result →
      Retried again attempt number (retries + 1) (talk ++ paused :: rest) result

theorem converses_retry {again : CatalogError → Bool} {attempt : Nat → Steps (Result α)}
    {post : Nat → List (Sigma Action.Answer) → Result α → Prop}
    (each : ∀ number, Converses (post number) (attempt number)) (number retries : Nat) :
    Converses (Retried again post number retries) (retry again attempt number retries) := by
  induction retries generalizing number with
  | zero => exact (each number).mono fun _ _ => .exhausted
  | succ retries inductionHypothesis =>
    refine (converses_bind _ _).mpr ((each number).mono fun talk result made => ?_)
    cases result with
    | ok value =>
      show Retried again post number _ (talk ++ []) (.ok value)
      rw [List.append_nil]
      exact .succeeded made
    | error error =>
      cases worth : again error with
      | false =>
        simp only [worth, Bool.false_eq_true, if_false]
        show Retried again post number _ (talk ++ []) (.error error)
        rw [List.append_nil]
        exact .fatal made worth
      | true =>
        simp only [worth, if_true]
        exact fun _ => (inductionHypothesis (number + 1)).mono fun _ _ => .more made worth

end Steps

namespace TransitionContext

variable {context : TransitionContext} {path : WritePath}

/-! ### The two attempts -/

/-- An attempt to write a candidate, with its answer. -/
def attempt (context : TransitionContext) (path : WritePath) (current candidate : Version)
    (answer : Result String) : Sigma Action.Answer :=
  ⟨.store (.updateVersion path current candidate (context.writeSelector current)), answer⟩

/-- The version read again with the caller's selector. -/
def rereading (context : TransitionContext) (answer : Result Version) : Sigma Action.Answer :=
  ⟨.store (.getVersion context.details.datasetId context.details.edition context.details.number
    context.ifMatch), answer⟩

/-- What an attempt to write a candidate comes to: the candidate with its new tag, or the error. -/
def outcome (candidate : Version) (answer : Result String) : Result Version :=
  answer.map fun tag => { candidate with eTag := tag }

theorem converses_write (current candidate : Version) :
    Converses (fun talk result => ∃ answer,
        talk = [context.attempt path current candidate answer] ∧ result = outcome candidate answer)
      (context.write path current candidate) := by
  intro answer
  cases answer with
  | ok tag => exact ⟨.ok tag, rfl, rfl⟩
  | error error => exact ⟨.error error, rfl, rfl⟩

/-- The ways in which a version is read again for another attempt. -/
inductive Refreshed (context : TransitionContext) :
    List (Sigma Action.Answer) → Result (Version × Version) → Prop
  | missed (error : CatalogError) :
    Refreshed context [context.rereading (.error error)] (.error error)
  | illegal {current : Version} {error : CatalogError} :
    checkMove context.transitions current (.combine current context.update) = .error error →
      Refreshed context [context.rereading (.ok current)] (.error error)
  | merged {current : Version} :
    checkMove context.transitions current (.combine current context.update) = .ok () →
      Refreshed context [context.rereading (.ok current)]
        (.ok (current, .combine current context.update))

theorem converses_refresh : Converses context.Refreshed context.refresh := by
  intro answer
  match answer with
  | .error error => exact .missed error
  | .ok current =>
    show Converses _ (Steps.require _ _)
    cases checked : checkMove context.transitions current (.combine current context.update) with
    | error error => exact .illegal checked
    | ok legal => exact .merged checked

/-- The attempts by their number: the given candidate is written first, and after that what the
update makes of the version as it is then. -/
def numbered (context : TransitionContext) (path : WritePath) : Nat → Steps (Result Version)
  | 0 => context.write path context.current context.candidate
  | _ + 1 =>
    context.refresh.andThen fun (current, candidate) => context.write path current candidate

/-- A candidate is persisted by attempts with one retry after a conflict. -/
theorem persist_eq_retry (context : TransitionContext) (path : WritePath) :
    context.persist path = Steps.retry CatalogError.isRetryable (context.numbered path) 0 1 := by
  refine congrArg (Program.bind (context.write path context.current context.candidate)) ?_
  funext result
  cases result <;> rfl

/-- The conversations of the attempts by their number. -/
inductive Attempted (context : TransitionContext) (path : WritePath) :
    Nat → List (Sigma Action.Answer) → Result Version → Prop
  | first (answer : Result String) :
    Attempted context path 0 [context.attempt path context.current context.candidate answer]
      (outcome context.candidate answer)
  | unread {number : Nat} {talk : List (Sigma Action.Answer)} {error : CatalogError} :
    context.Refreshed talk (.error error) →
      Attempted context path (number + 1) talk (.error error)
  | again {number : Nat} {talk : List (Sigma Action.Answer)} {current candidate : Version}
      (answer : Result String) :
    context.Refreshed talk (.ok (current, candidate)) →
      Attempted context path (number + 1) (talk ++ [context.attempt path current candidate answer])
        (outcome candidate answer)

theorem converses_numbered (number : Nat) :
    Converses (context.Attempted path number) (context.numbered path number) := by
  cases number with
  | zero =>
    refine (converses_write _ _).mono ?_
    rintro _ _ ⟨answer, rfl, rfl⟩
    exact .first answer
  | succ number =>
    refine (converses_bind _ _).mpr (converses_refresh.mono fun talk result refreshed => ?_)
    match result with
    | .error error =>
      show context.Attempted path _ (talk ++ []) (.error error)
      rw [List.append_nil]
      exact .unread refreshed
    | .ok (current, candidate) =>
      refine (converses_write _ _).mono ?_
      rintro _ _ ⟨answer, rfl, rfl⟩
      exact .again answer refreshed

/-! ### The whole conversation -/

/-- The conversations in which a candidate is persisted. -/
inductive Conversation (context : TransitionContext) (path : WritePath) :
    List (Sigma Action.Answer) → Result Version → Prop
  /-- The first attempt is the last one unless it met a conflict. -/
  | once {answer : Result String} :
    (∀ resource selector, answer ≠ .error (.conflict resource selector)) →
      Conversation context path
        [context.attempt path context.current context.candidate answer]
        (outcome context.candidate answer)
  /-- The version could not be read again. -/
  | unread (resource selector : String) (error : CatalogError) :
    Conversation context path
      [context.attempt path context.current context.candidate
          (.error (.conflict resource selector)),
        Steps.paused, context.rereading (.error error)]
      (.error error)
  /-- What the update makes of the version as it is now did not pass. -/
  | illegal (resource selector : String) {current : Version} {error : CatalogError} :
    checkMove context.transitions current (.combine current context.update) = .error error →
      Conversation context path
        [context.attempt path context.current context.candidate
            (.error (.conflict resource selector)),
          Steps.paused, context.rereading (.ok current)]
        (.error error)
  /-- It passed, and was written in the same way. -/
  | twice (resource selector : String) {current : Version} (answer : Result String) :
    checkMove context.transitions current (.combine current context.update) = .ok () →
      Conversation context path
        [context.attempt path context.current context.candidate
            (.error (.conflict resource selector)),
          Steps.paused, context.rereading (.ok current),
          context.attempt path current (.combine current context.update) answer]
        (outcome (.combine current context.update) answer)

theorem isRetryable_iff {error : CatalogError} :
    error.isRetryable = true ↔ ∃ resource selector, error = .conflict resource selector := by
  cases error <;> simp [CatalogError.isRetryable, CatalogError.isConflict]

theorem outcome_eq_ok_iff {candidate version : Version} {answer : Result String} :
    outcome candidate answer = .ok version ↔
      ∃ tag, answer = .ok tag ∧ version = { candidate with eTag := tag } := by
  cases answer with
  | error error => simp [outcome, Except.map]
  | ok tag => simp [outcome, Except.map, eq_comm]

theorem outcome_eq_error_iff {candidate : Version} {answer : Result String} {error : CatalogError} :
    outcome candidate answer = .error error ↔ answer = .error error := by
  cases answer <;> simp [outcome, Except.map]

/-- The first attempt writes the given candidate and does nothing else. -/
theorem Attempted.of_first {talk : List (Sigma Action.Answer)} {result : Result Version}
    (attempted : context.Attempted path 0 talk result) :
    ∃ answer, talk = [context.attempt path context.current context.candidate answer] ∧
      result = outcome context.candidate answer := by
  cases attempted with
  | first answer => exact ⟨answer, rfl, rfl⟩

theorem converses_persist (context : TransitionContext) (path : WritePath) :
    Converses (context.Conversation path) (context.persist path) := by
  rw [persist_eq_retry]
  refine (Steps.converses_retry converses_numbered 0 1).mono fun talk result retried => ?_
  cases retried with
  | succeeded made =>
    obtain ⟨answer, rfl, ends⟩ := made.of_first
    obtain ⟨tag, rfl, -⟩ := outcome_eq_ok_iff.mp ends.symm
    exact ends ▸ .once fun _ _ => nofun
  | fatal made fatal =>
    obtain ⟨answer, rfl, ends⟩ := made.of_first
    obtain rfl := outcome_eq_error_iff.mp ends.symm
    rw [ends]
    refine .once fun resource selector same => ?_
    rw [isRetryable_iff.mpr ⟨resource, selector, Except.error.inj same⟩] at fatal
    cases fatal
  | @more _ _ _ rest _ _ made worth later =>
    obtain ⟨resource, selector, rfl⟩ := isRetryable_iff.mp worth
    obtain ⟨answer, rfl, ends⟩ := made.of_first
    obtain rfl := outcome_eq_error_iff.mp ends.symm
    have attempted : context.Attempted path 1 rest result := by
      cases later with
      | exhausted attempted | succeeded attempted | fatal attempted => exact attempted
    cases attempted with
    | unread refreshed =>
      cases refreshed with
      | missed => exact .unread resource selector _
      | illegal stopped => exact .illegal resource selector stopped
    | again answer refreshed =>
      cases refreshed with
      | merged legal => exact .twice resource selector answer legal

/-! ### What was said -/

/-- An attempt to write a version: what was to be written, and the answer. -/
structure Attempt where
  candidate : Version
  answer : Result String

/-- The attempt that an exchange with the store was. -/
def attempt? : Sigma Action.Answer → Option Attempt
  | ⟨.store (.updateVersion _ _ candidate _), answer⟩ => some ⟨candidate, answer⟩
  | _ => none

/-- The attempt that was made last. -/
def lastAttempt? (talk : List (Sigma Action.Answer)) : Option Attempt :=
  (talk.filterMap attempt?).getLast?

namespace Conversation

variable {talk : List (Sigma Action.Answer)} {result : Result Version}

/-- The version is read again exactly when the first attempt met a conflict. -/
theorem rereading_mem_iff (conversation : context.Conversation path talk result) :
    (∃ answer, context.rereading answer ∈ talk) ↔
      ∃ resource selector, talk.head? = some (context.attempt path context.current
        context.candidate (.error (.conflict resource selector))) := by
  have apart {current candidate : Version} {answer : Result Version} {other : Result String} :
      context.rereading answer ≠ context.attempt path current candidate other := by
    intro same
    cases congrArg Sigma.fst same
  cases conversation with
  | once settled =>
    constructor
    · rintro ⟨answer, member⟩
      exact (apart (List.mem_singleton.mp member)).elim
    · rintro ⟨resource, selector, same⟩
      have answers := eq_of_heq (Sigma.mk.inj (Option.some_inj.mp same)).2
      exact (settled resource selector answers).elim
  | unread resource selector error =>
    exact ⟨fun _ => ⟨resource, selector, rfl⟩, fun _ => ⟨.error error, by simp⟩⟩
  | @illegal resource selector current =>
    exact ⟨fun _ => ⟨resource, selector, rfl⟩, fun _ => ⟨.ok current, by simp⟩⟩
  | @twice resource selector current =>
    exact ⟨fun _ => ⟨resource, selector, rfl⟩, fun _ => ⟨.ok current, by simp⟩⟩

/-- The conversation succeeds exactly when its last attempt did, with what that attempt wrote. -/
theorem succeeds_iff (conversation : context.Conversation path talk result) :
    ∃ last, lastAttempt? talk = some last ∧ ∀ version, result = .ok version ↔
      ∃ tag, last.answer = .ok tag ∧ version = { last.candidate with eTag := tag } := by
  cases conversation with
  | @once answer => exact ⟨⟨_, answer⟩, rfl, fun _ => outcome_eq_ok_iff⟩
  | unread | illegal => exact ⟨_, rfl, fun _ => ⟨nofun, fun ⟨_, same, _⟩ => nomatch same⟩⟩
  | twice resource selector answer => exact ⟨⟨_, answer⟩, rfl, fun _ => outcome_eq_ok_iff⟩

end Conversation

/-- Whatever the store answers, a candidate is persisted in one of the four conversations. The
version is read again exactly after a conflict at the first attempt, and a version is answered
exactly when the last attempt was accepted. -/
theorem persist_retries_once {σ : Type} (context : TransitionContext) (path : WritePath)
    (perform : (action : Action) → σ → action.Answer × σ) (state : σ) :
    let talk := (context.persist path).transcript perform state
    let result := ((context.persist path).run perform state).1
    context.Conversation path talk result ∧
      ((∃ answer, context.rereading answer ∈ talk) ↔
        ∃ resource selector, talk.head? = some (context.attempt path context.current
          context.candidate (.error (.conflict resource selector)))) ∧
      ∃ last, lastAttempt? talk = some last ∧ ∀ version, result = .ok version ↔
        ∃ tag, last.answer = .ok tag ∧ version = { last.candidate with eTag := tag } := by
  have conversation := (converses_persist context path).run perform state
  exact ⟨conversation, conversation.rereading_mem_iff, conversation.succeeds_iff⟩

end TransitionContext

end ReleaseCatalog
