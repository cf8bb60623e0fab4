/-
Programs that are held to a conduct. A tally is kept of what the calls of a program were answered,
and says which calls are fine next. Where `Upholds` asks the same of every call, here a call may be
fine only once, or only with what was answered before; still nothing is known of the state, so that
it holds whatever others do meanwhile.

The rules are those of the steps under a lock, and then of the request around them, which makes the
same calls with or without a time by which each must be over. A call that was given up midway is not
in the tally, and is the last of its steps.
-/

import ReleaseCatalog.Proofs.Program.Runs
import ReleaseCatalog.Workflow.Amend

namespace ReleaseCatalog

namespace Program

variable {Call : Type} {Answer : Call → Type} {α β σ τ : Type}

/-- What a program is held to: which calls are fine by the tally, and how answers are tallied. -/
structure Conduct (Answer : Call → Type) (τ : Type) where
  fine : τ → Call → Prop
  after : τ → (call : Call) → Answer call → τ

/-- Whatever it is answered, the program makes only calls that are fine by the tally, and its result
is as required. -/
def Abides (conduct : Conduct Answer τ) (post : α → τ → Prop) :
    Program Call Answer α → τ → Prop
  | .done result, tally => post result tally
  | .step call next, tally =>
    conduct.fine tally call ∧
      ∀ answer, Abides conduct post (next answer) (conduct.after tally call answer)

variable {conduct : Conduct Answer τ} {tally : τ}

theorem Abides.mono {post weaker : α → τ → Prop} {program : Program Call Answer α}
    (abides : Abides conduct post program tally)
    (implies : ∀ result later, post result later → weaker result later) :
    Abides conduct weaker program tally := by
  induction program generalizing tally with
  | done result => exact implies _ _ abides
  | step call next inductionHypothesis =>
    exact ⟨abides.1, fun answer => inductionHypothesis answer (abides.2 answer)⟩

/-- What is fine in a narrow sense can be taken to be fine in a wider one. -/
theorem Abides.of_fine {wider : Conduct Answer τ} {post : α → τ → Prop}
    {program : Program Call Answer α} (abides : Abides conduct post program tally)
    (same : wider.after = conduct.after)
    (implies : ∀ tally call, conduct.fine tally call → wider.fine tally call) :
    Abides wider post program tally := by
  induction program generalizing tally with
  | done result => exact abides
  | step call next inductionHypothesis =>
    refine ⟨implies _ _ abides.1, fun answer => ?_⟩
    rw [same]
    exact inductionHypothesis answer (abides.2 answer)

theorem abides_bind {post : β → τ → Prop} (program : Program Call Answer α)
    (continuation : α → Program Call Answer β) :
    Abides conduct post (program.bind continuation) tally ↔
      Abides conduct (fun result => Abides conduct post (continuation result)) program tally := by
  induction program generalizing tally with
  | done result => exact Iff.rfl
  | step call next inductionHypothesis =>
    exact and_congr Iff.rfl (forall_congr' fun answer => inductionHypothesis answer)

/-- A program abides by a conduct under which the calls that it makes are always fine. -/
theorem Upholds.abides {fine : Call → Prop} {post : α → Prop} {program : Program Call Answer α}
    (upholds : Upholds (fun _ _ => True) fine post program)
    (implies : ∀ tally call, fine call → conduct.fine tally call) :
    Abides conduct (fun result _ => post result) program tally := by
  induction program generalizing tally with
  | done result => exact upholds
  | step call next inductionHypothesis =>
    exact ⟨implies _ _ upholds.1, fun answer =>
      inductionHypothesis answer (upholds.2 answer trivial)⟩

/-- One call and then other steps. -/
theorem abides_call_bind {post : β → τ → Prop} (request : Call)
    (continuation : Answer request → Program Call Answer β) :
    Abides conduct post ((call request).bind continuation) tally ↔
      conduct.fine tally request ∧ ∀ answer,
        Abides conduct post (continuation answer) (conduct.after tally request answer) :=
  Iff.rfl

/-- The tally after calls that were made. -/
def Conduct.tallied (conduct : Conduct Answer τ) (tally : τ) (events : List (Event Answer σ)) : τ :=
  events.foldl (fun tally event => conduct.after tally event.call event.answer) tally

/-- In a run of a program that abides by a conduct each call is fine by the tally of those before
it, and the result is as required by the tally of all of them. -/
theorem Runs.abides {setting : Setting Answer σ} {program : Program Call Answer α} {state last : σ}
    {events : List (Event Answer σ)} {outcome : Option α}
    (run : Runs setting program state events outcome last) {post : α → τ → Prop}
    (abides : Abides conduct post program tally) :
    (∀ earlier event later, events = earlier ++ event :: later →
      conduct.fine (conduct.tallied tally earlier) event.call) ∧
      ∀ result, outcome = some result → post result (conduct.tallied tally events) := by
  induction run generalizing tally with
  | done result =>
    refine ⟨fun earlier event later split => by simp at split, fun other same => ?_⟩
    cases same
    exact abides
  | stop | givenUp => exact ⟨fun earlier event later split => by simp at split, nofun⟩
  | outside _ _ inductionHypothesis => exact inductionHypothesis abides
  | step _ _ inductionHypothesis =>
    obtain ⟨fineLater, result⟩ := inductionHypothesis (abides.2 _)
    refine ⟨fun earlier event later split => ?_, result⟩
    rcases List.cons_eq_append_iff.mp split with ⟨rfl, same⟩ | ⟨rest, rfl, further⟩
    · cases same
      exact abides.1
    · exact fineLater rest event later further

end Program

open Program

/-! ### Steps that succeed -/

namespace Steps

variable {α β τ : Type} {conduct : Conduct Action.Answer τ} {holds : α → τ → Prop}
  {ends : β → τ → Prop} {tally : τ}

/-- The steps abide by the conduct, and they succeed only with values as required. -/
def Warrants (conduct : Conduct Action.Answer τ) (holds : α → τ → Prop)
    (steps : Steps (Result α)) (tally : τ) : Prop :=
  Abides conduct (fun result later => ∀ value, result = .ok value → holds value later) steps tally

theorem warrants_ok {value : α} (held : holds value tally) :
    Warrants conduct holds (.done (.ok value)) tally := by
  intro other same
  rw [← Except.ok.inj same]
  exact held

theorem warrants_error (error : CatalogError) :
    Warrants conduct holds (.done (.error error)) tally :=
  fun _ => nofun

theorem warrants_act_bind {action : Action} {next : action.Answer → Steps (Result β)}
    (fine : conduct.fine tally action)
    (two : ∀ answer, Warrants conduct ends (next answer) (conduct.after tally action answer)) :
    Warrants conduct ends ((act action).bind next) tally :=
  ⟨fine, two⟩

theorem warrants_store {call : StoreCall} {holds : call.Value → τ → Prop}
    (fine : conduct.fine tally (.store call))
    (done : ∀ value, holds value (conduct.after tally (.store call) (.ok value))) :
    Warrants conduct holds (store call) tally := by
  refine ⟨fine, fun answer value same => ?_⟩
  subst same
  exact done value

theorem warrants_andThen {first : Steps (Result α)} {next : α → Steps (Result β)}
    (one : Warrants conduct holds first tally)
    (two : ∀ value later, holds value later → Warrants conduct ends (next value) later) :
    Warrants conduct ends (first.andThen next) tally := by
  refine (abides_bind first _).mpr (Abides.mono one fun result later held => ?_)
  cases result with
  | error error => exact warrants_error error
  | ok value => exact two value later (held value rfl)

theorem warrants_require {result : Result α} {next : α → Steps (Result β)}
    (two : ∀ value, result = .ok value → Warrants conduct ends (next value) tally) :
    Warrants conduct ends (require result next) tally := by
  cases result with
  | error error => exact warrants_error error
  | ok value => exact two value rfl

end Steps

namespace TransitionContext

variable {τ : Type} {conduct : Conduct Action.Answer τ} {holds : Version → τ → Prop}
  {refreshed : Version × Version → τ → Prop} {tally : τ} {context : TransitionContext}
  {path : WritePath}

/-- A version is written as required if the first attempt writes it so or leaves the tally alone,
and the candidate that is made anew then is written so at the second. -/
theorem warrants_persist_of
    (first : Abides conduct
      (fun result later => (∀ version, result = .ok version → holds version later) ∧
        ∀ error, result = .error error → later = tally)
      (context.write path context.current context.candidate) tally)
    (pauses : conduct.fine tally .pause) (paused : conduct.after tally .pause () = tally)
    (refreshes : context.refresh.Warrants conduct refreshed tally)
    (second : ∀ pair later, refreshed pair later →
      (context.write path pair.1 pair.2).Warrants conduct holds later) :
    (context.persist path).Warrants conduct holds tally := by
  refine (abides_bind _ _).mpr (first.mono ?_)
  rintro result later ⟨succeeded, failed⟩
  match result with
  | .ok version => exact Steps.warrants_ok (succeeded version rfl)
  | .error error =>
    rw [failed error rfl]
    by_cases retried : error.isRetryable = true
    · simp only [if_pos retried]
      refine Steps.warrants_act_bind pauses fun _ => ?_
      show Steps.Warrants conduct holds _ (conduct.after tally .pause ())
      rw [paused]
      exact Steps.warrants_andThen refreshes second
    · simp only [if_neg retried]
      exact Steps.warrants_error error

end TransitionContext

/-! ### Requests -/

namespace Request

variable {α τ : Type}

/-- A request is held to what its steps are held to. -/
def conduct (inner : Conduct Action.Answer τ) : Conduct Call.Answer τ where
  fine tally
    | .act action => inner.fine tally action
    | .actBefore _ action => inner.fine tally action
    | _ => True
  after tally
    | .act action, answer => inner.after tally action answer
    | .actBefore _ action, some answer => inner.after tally action answer
    | _, _ => tally

variable {inner : Conduct Action.Answer τ} {post : α → τ → Prop} {tally : τ}

theorem abides_ofSteps {steps : Steps α} (abides : Abides inner post steps tally) :
    Abides (conduct inner) post (ofSteps steps) tally := by
  induction steps generalizing tally with
  | done result => exact abides
  | step action next inductionHypothesis =>
    exact ⟨abides.1, fun answer => inductionHypothesis answer (abides.2 answer)⟩

/-- Steps that missed their time end with nothing. -/
theorem abides_before (expiry : Instant) {steps : Steps α}
    (abides : Abides inner post steps tally) :
    Abides (conduct inner) (fun outcome later => ∀ result, outcome = some result →
      post result later) (before expiry steps) tally := by
  induction steps generalizing tally with
  | done result =>
    intro other same
    cases same
    exact abides
  | step action next inductionHypothesis =>
    unfold before
    refine ⟨abides.1, fun answer => ?_⟩
    cases answer with
    | none => exact nofun
    | some answer => exact inductionHypothesis answer (abides.2 answer)

variable {holds : Version → τ → Prop} {machine : Machine} {details : VersionDetails}
  {update : Version} {options : AmendOptions}

/-- Under a deadline or not, a request succeeds only with what its steps succeed with. -/
theorem abides_lockedInTime
    (warrants : (machine.locked details update options).Warrants inner holds tally) :
    Abides (conduct inner) (fun result later => ∀ version, result = .ok version →
      holds version later) (machine.lockedInTime details update options) tally := by
  unfold Machine.lockedInTime
  cases machine.deadline with
  | none => exact abides_ofSteps warrants
  | some deadline =>
    refine (abides_call_bind _ _).mpr ⟨trivial, fun start => (abides_bind _ _).mpr ?_⟩
    refine (abides_before _ warrants).mono fun outcome later held => ?_
    cases outcome with
    | none => exact fun _ => nofun
    | some result => exact held result rfl

/-- A request for a lock abides by the conduct of its steps when looking for the kind of the lock is
fine and does not count. -/
theorem abides_amendVersion
    (looks : inner.fine tally (.store (.getDatasetType details.datasetId true)))
    (blind : ∀ answer,
      inner.after tally (.store (.getDatasetType details.datasetId true)) answer = tally)
    (warrants : (machine.locked details update options).Warrants inner holds tally) :
    Abides (conduct inner) (fun result later => ∀ version, result = .ok version →
      holds version later) (machine.amendVersion details update options) tally := by
  have kind : Abides inner (fun _ later => later = tally) (Machine.lockKind details) tally := by
    refine ⟨looks, fun answer => ?_⟩
    match answer with
    | .ok type => exact blind (.ok type)
    | .error error => exact blind (.error error)
  refine (abides_bind _ _).mpr ((abides_ofSteps kind).mono ?_)
  rintro kind _ rfl
  refine (abides_call_bind _ _).mpr ⟨trivial, fun answer => ?_⟩
  match answer with
  | .error error => exact fun _ => nofun
  | .ok token =>
    refine (abides_bind _ _).mpr ((abides_lockedInTime warrants).mono ?_)
    exact fun result later held => (abides_call_bind _ _).mpr ⟨trivial, fun _ => held⟩

end Request

end ReleaseCatalog
