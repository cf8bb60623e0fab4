/-
Many requests that are held to conducts, each to one of its own. However their calls are interleaved
and whatever fails, each request goes on by its own tally. So whatever happens next is one of three
things: no call is made that a tally could tell of; or a request makes a call that is fine by its
tally; or somebody else calls the store. What a trace tells of tallies is shown from that, by
induction on the run.

Most tallies are of calls on the store that were carried out. Such a call is in the trace, with the
site at which it was made, and a run has led to that site.
-/

import ReleaseCatalog.Proofs.Concurrency.Disturbance
import ReleaseCatalog.Proofs.Program.Conduct
import ReleaseCatalog.Proofs.Workflow.Dispatch

namespace ReleaseCatalog

open Function (update)
open Program (Conduct)

variable {ι α τ : Type}

/-- Taking locks and giving them back are not in the tally. -/
def Request.IgnoresLocks (conduct : Conduct Call.Answer τ) : Prop :=
  ∀ (tally : τ) (call : Call) (answer : call.Answer), call.isForLock = true →
    conduct.after tally call answer = tally

/-- Requests that are held to what their steps are held to have no locks in their tallies. -/
theorem Request.ignoresLocks_conduct (inner : Conduct Action.Answer τ) :
    IgnoresLocks (conduct inner) := by
  intro tally call answer forLock
  cases call with
  | acquire | hold | release => rfl
  | act | actBefore | instant => cases forLock

/-- Nothing is in the tally but calls on the store that were carried out. -/
structure Steps.TalliesSuccesses (conduct : Conduct Action.Answer τ) : Prop where
  failed (tally : τ) (request : StoreCall) (error : CatalogError) :
    conduct.after tally (.store request) (.error error : request.Answer) = tally
  generated (tally : τ) (generator : Generator) (request : GenerateRequest)
    (answer : Result Unit) : conduct.after tally (.generate generator request) answer = tally
  paused (tally : τ) : conduct.after tally .pause () = tally
  dated (tally : τ) (now : Timestamp) : conduct.after tally .now now = tally

/-- A call leaves the tally as it was, or it has accomplished what is in the tally after it. -/
theorem Request.after_conduct_eq_or {inner : Conduct Action.Answer τ}
    (successes : Steps.TalliesSuccesses inner) (tally : τ) (call : Call) (answer : call.Answer) :
    (conduct inner).after tally call answer = tally ∨ ∃ request value,
      call.Accomplishes answer request value ∧
        (conduct inner).after tally call answer =
          inner.after tally (.store request) (.ok value : request.Answer) := by
  have acted (action : Action) (answer : action.Answer) :
      inner.after tally action answer = tally ∨ ∃ request value,
        Call.Accomplishes (.act action) answer request value ∧
          inner.after tally action answer =
            inner.after tally (.store request) (.ok value : request.Answer) := by
    cases action with
    | generate generator request => exact .inl (successes.generated tally generator request answer)
    | pause => exact .inl (successes.paused tally)
    | now => exact .inl (successes.dated tally answer)
    | store request =>
      match answer with
      | .ok value => exact .inr ⟨request, value, .act request value, rfl⟩
      | .error error => exact .inl (successes.failed tally request error)
  cases call with
  | act action => exact acted action answer
  | actBefore expiry action =>
    cases answer with
    | none => exact .inl rfl
    | some answer =>
      rcases acted action answer with same | ⟨request, value, accomplishes, same⟩
      · exact .inl same
      · exact .inr ⟨request, value, accomplishes.before expiry, same⟩
  | instant | acquire | hold | release => exact .inl rfl

/-! ### What was answered -/

/-- The caller has made a call on the store that was carried out, at a site as it was then, and
answered with a value. -/
def Happening.Accomplished (trace : List (Happening ι)) (caller : ι) (request : StoreCall)
    (value : request.Value) : Prop :=
  ∃ site, .called caller site (request.writes site.now site.catalog) ∈ trace ∧
    (site.catalog.perform site.now request).1 = .ok value

namespace Happening

variable {trace more : List (Happening ι)} {caller : ι} {request : StoreCall}
  {value : request.Value}

theorem Accomplished.mono (done : Accomplished trace caller request value) :
    Accomplished (trace ++ more) caller request value := by
  obtain ⟨site, member, answered⟩ := done
  exact ⟨site, List.mem_append_left _ member, answered⟩

/-- A call that was carried out was so at the site where it was made, with all its writes. -/
theorem accomplished_of_answers {call : Call} {answer : call.Answer} {site after : Site}
    {writes : List Write} (answered : site.Answers call answer after)
    (recorded : after.journal = site.journal ++ writes)
    (accomplishes : call.Accomplishes answer request value) :
    Accomplished (trace ++ [.called caller site writes]) caller request value := by
  obtain ⟨performed, rfl⟩ := answered.performed accomplishes
  have made : writes = request.writes site.now site.catalog :=
    List.append_cancel_left recorded.symm
  exact ⟨site, made ▸ List.mem_append_right _ List.mem_cons_self, performed⟩

end Happening

/-! ### Going by tallies -/

/-- A request that has come so far among others goes by its tally from there. -/
def Progress.Abides (conduct : Conduct Call.Answer τ) (post : α → τ → Prop) (tally : τ) :
    Progress α → Prop
  | .ready request => Program.Abides conduct post request tally
  | .visiting _ next | .waiting _ next =>
    ∀ attempt, Program.Abides conduct post (next attempt) tally
  | .struck _ next | .passing _ next => Program.Abides conduct post (next ()) tally

namespace System

variable [DecidableEq ι] {conducts : ι → Conduct Call.Answer τ} {post : ι → α → τ → Prop}
  {system start last : System ι α} {site after : Site} {trace happenings : List (Happening ι)}
  {tallies later : ι → τ}

/-- All requests go by their tallies from where they are. -/
def Held (conducts : ι → Conduct Call.Answer τ) (post : ι → α → τ → Prop) (system : System ι α)
    (tallies : ι → τ) : Prop :=
  ∀ caller, (system.progress caller).Abides (conducts caller) (post caller) (tallies caller)

/-- What happens at a site, to the tallies of requests. -/
inductive Advance (conducts : ι → Conduct Call.Answer τ) (site : Site) (tallies : ι → τ) :
    List (Happening ι) → Site → (ι → τ) → Prop
  | quiet {happenings : List (Happening ι)} {after : Site} :
    (happenings = [] ∨ ∃ caller, happenings = [.obtained caller]) → after.catalog = site.catalog →
      Advance conducts site tallies happenings after tallies
  | call {caller : ι} {call : Call} {answer : call.Answer} {writes : List Write} {after : Site} :
    (conducts caller).fine (tallies caller) call → site.Answers call answer after →
      after.journal = site.journal ++ writes →
      Advance conducts site tallies [.called caller site writes] after
        (update tallies caller ((conducts caller).after (tallies caller) call answer))
  | outside (call : StoreCall) :
    Advance conducts site tallies [.outside call site] (site.store call).2 tallies

/-- One request has gone on, and the others are where they were. -/
theorem Held.go (held : system.Held conducts post tallies) {caller : ι} {site : Site}
    {progress : Progress α} {tally : τ}
    (abides : progress.Abides (conducts caller) (post caller) tally) :
    (system.after caller site progress).Held conducts post (update tallies caller tally) := by
  intro other
  by_cases same : other = caller
  · subst same
    rw [after_progress_self, Function.update_self]
    exact abides
  · rw [after_progress_other _ same, Function.update_of_ne same]
    exact held other

/-- Whatever happens next, the requests go on by their tallies. -/
theorem Held.step (held : system.Held conducts post tallies)
    (ignores : ∀ caller, Request.IgnoresLocks (conducts caller))
    (step : DisturbedStep system happenings last) :
    ∃ later, Advance conducts system.site tallies happenings last.site later ∧
      last.Held conducts post later := by
  have abides {caller : ι} {progress : Progress α} (here : system.progress caller = progress) :
      progress.Abides (conducts caller) (post caller) (tallies caller) := here ▸ held caller
  -- A lock was taken or given back, so the tally is the one from before.
  have goesOn {caller : ι} {call : Call} {next : call.Answer → Request α}
      (here : system.progress caller = .ready (.step call next)) (forLock : call.isForLock = true)
      (answer : call.Answer) :
      Program.Abides (conducts caller) (post caller) (next answer) (tallies caller) :=
    ignores caller (tallies caller) call answer forLock ▸ (abides here).2 answer
  have quiet {caller : ι} {site : Site} {progress : Progress α}
      (nothing : happenings = [] ∨ ∃ caller, happenings = [.obtained caller])
      (same : site.catalog = system.site.catalog)
      (abides : progress.Abides (conducts caller) (post caller) (tallies caller)) :
      ∃ later, Advance conducts system.site tallies happenings site later ∧
        (system.after caller site progress).Held conducts post later :=
    ⟨tallies, .quiet nothing same, Function.update_eq_self caller tallies ▸ held.go abides⟩
  cases step with
  | notAcquired error here => exact quiet (.inl rfl) rfl (goesOn here rfl (.error error))
  | step step =>
    cases step with
    | call here plain answered recorded =>
      obtain ⟨fine, next⟩ := abides here
      exact ⟨_, .call fine answered recorded, held.go (next _)⟩
    | enter here entered => exact quiet (.inl rfl) rfl (goesOn here rfl)
    | enterToHold here entered => exact quiet (.inl rfl) rfl (goesOn here rfl)
    | lineUp here =>
      have goes := abides here
      exact quiet (.inl rfl) rfl goes
    | register here through => exact quiet (.inr ⟨_, rfl⟩) rfl (abides here _)
    | giveUp here => exact quiet (.inl rfl) rfl (abides here _)
    | strike here struck => exact quiet (.inl rfl) rfl (goesOn here rfl ())
    | refused here gone => exact quiet (.inl rfl) rfl (goesOn here rfl ())
    | passOn here | prune here =>
      have goes := abides here
      exact quiet (.inl rfl) rfl goes
    | outside call => exact ⟨tallies, .outside call, held⟩

/-! ### What a trace tells of tallies -/

/-- Whatever a trace tells of a tally it goes on telling, and of what the tally gains by a call it
tells when the call is in it. -/
structure Evident (conducts : ι → Conduct Call.Answer τ)
    (evidence : List (Happening ι) → ι → τ → Prop) : Prop where
  mono {trace more : List (Happening ι)} {caller : ι} {tally : τ} :
    evidence trace caller tally → evidence (trace ++ more) caller tally
  call {trace : List (Happening ι)} {caller : ι} {tally : τ} {call : Call} {answer : call.Answer}
      {site after : Site} {writes : List Write} :
    evidence trace caller tally → (conducts caller).fine tally call →
      site.Answers call answer after → after.journal = site.journal ++ writes →
      evidence (trace ++ [.called caller site writes]) caller
        ((conducts caller).after tally call answer)

variable {evidence : List (Happening ι) → ι → τ → Prop}

theorem Advance.known (advance : Advance conducts site tallies happenings after later)
    (evident : Evident conducts evidence)
    (before : ∀ caller, evidence trace caller (tallies caller)) (caller : ι) :
    evidence (trace ++ happenings) caller (later caller) := by
  cases advance with
  | quiet | outside => exact evident.mono (before caller)
  | @call other _ _ _ _ fine answered recorded =>
    by_cases same : caller = other
    · subst same
      rw [Function.update_self]
      exact evident.call (before caller) fine answered recorded
    · rw [Function.update_of_ne same]
      exact evident.mono (before caller)

/-- In every run the requests go by tallies that the trace tells of. -/
theorem DisturbedRuns.exists_held (held : start.Held conducts post tallies)
    (ignores : ∀ caller, Request.IgnoresLocks (conducts caller))
    (evident : Evident conducts evidence) (known : ∀ caller, evidence [] caller (tallies caller))
    (run : DisturbedRuns start trace last) :
    ∃ later, last.Held conducts post later ∧ ∀ caller, evidence trace caller (later caller) := by
  induction run with
  | begun => exact ⟨tallies, held, known⟩
  | step _ step inductionHypothesis =>
    obtain ⟨middle, held, known⟩ := inductionHypothesis
    obtain ⟨later, advance, held⟩ := held.step ignores step
    exact ⟨later, held, advance.known evident known⟩

/-- A request that was at a site in a run was there at the end of the run up to there. -/
theorem DisturbedRuns.exists_before (run : DisturbedRuns start trace last) {caller : ι}
    {writes : List Write} (member : .called caller site writes ∈ trace) :
    ∃ earlier more middle, trace = earlier ++ .called caller site writes :: more ∧
      DisturbedRuns start earlier middle ∧ middle.site = site := by
  induction run with
  | begun => cases member
  | @step trace happenings middle last run step inductionHypothesis =>
    rcases List.mem_append.mp member with before | now
    · obtain ⟨earlier, more, first, rfl, front, here⟩ := inductionHypothesis before
      exact ⟨earlier, more ++ happenings, first, by simp, front, here⟩
    · rcases step.happenings_cases with (rfl | ⟨other, rfl⟩) | ⟨other, made, rfl⟩ | ⟨call, rfl⟩
      · cases now
      · cases List.mem_singleton.mp now
      · cases List.mem_singleton.mp now
        exact ⟨trace, [], middle, rfl, run, rfl⟩
      · cases List.mem_singleton.mp now

end System

end ReleaseCatalog
