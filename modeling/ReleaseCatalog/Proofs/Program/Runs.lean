/-
Runs of programs. A setting says what the calls of a program may be answered, what a call that is
given up midway may have done, and what others may do to the state between two calls; a run is one
way through all these choices, with a record of the calls that were made. A run may break off before
any call, so that what holds of all runs holds at every moment of a run that goes on.

Two kinds of statements carry over from a program to its runs. `Ensures` follows the state when
nobody else changes it: it is the weakest condition on the first state under which every run ends as
it should. `Upholds` forgets the state and follows only what the calls are answered, so that it
holds whatever others do meanwhile.
-/

import Mathlib.Logic.Relation
import ReleaseCatalog.Program

namespace ReleaseCatalog.Program

variable {Call : Type} {Answer : Call → Type} {α β σ : Type}

/-- One call that a program made: its answer, and the state before and after it. -/
structure Event (Answer : Call → Type) (σ : Type) where
  call : Call
  answer : Answer call
  before : σ
  after : σ

/-- What can happen to a program and to the state it works on. -/
structure Setting (Answer : Call → Type) (σ : Type) where
  /-- What a call may be answered, and the state that it may leave. -/
  answers : (call : Call) → σ → Answer call → σ → Prop
  /-- The state that a call may leave when it is given up midway and the program with it. -/
  givesUp : Call → σ → σ → Prop := fun _ _ _ => False
  /-- What others may do to the state between two calls. -/
  outside : σ → σ → Prop := fun _ _ => False

/-- The runs of a program from a state, with the calls that were made and the state that is left.
The outcome is absent when the run broke off before the program was done. -/
inductive Runs (setting : Setting Answer σ) :
    Program Call Answer α → σ → List (Event Answer σ) → Option α → σ → Prop
  | done (result : α) (state : σ) : Runs setting (.done result) state [] (some result) state
  | stop (call : Call) (next : Answer call → Program Call Answer α) (state : σ) :
    Runs setting (.step call next) state [] none state
  | givenUp {call : Call} (next : Answer call → Program Call Answer α) {state last : σ} :
    setting.givesUp call state last → Runs setting (.step call next) state [] none last
  | outside {program : Program Call Answer α} {state between last : σ}
      {events : List (Event Answer σ)} {outcome : Option α} :
    setting.outside state between → Runs setting program between events outcome last →
      Runs setting program state events outcome last
  | step {call : Call} {next : Answer call → Program Call Answer α} {state after last : σ}
      {answer : Answer call} {events : List (Event Answer σ)} {outcome : Option α} :
    setting.answers call state answer after → Runs setting (next answer) after events outcome last →
      Runs setting (.step call next) state (⟨call, answer, state, after⟩ :: events) outcome last

/-- Every call of a run was answered as its setting allows. -/
theorem Runs.answers_of_mem {setting : Setting Answer σ} {program : Program Call Answer α}
    {state last : σ} {events : List (Event Answer σ)} {outcome : Option α}
    (run : Runs setting program state events outcome last) {event : Event Answer σ}
    (member : event ∈ events) :
    setting.answers event.call event.before event.answer event.after := by
  induction run with
  | done | stop | givenUp => cases member
  | outside _ _ inductionHypothesis => exact inductionHypothesis member
  | step answered _ inductionHypothesis =>
    rcases List.mem_cons.mp member with rfl | later
    · exact answered
    · exact inductionHypothesis later

/-- What holds of the first state and is kept by everything that can happen holds before and after
every call. -/
theorem Runs.invariant {setting : Setting Answer σ} (kept : σ → Prop)
    (step : ∀ call state answer after, setting.answers call state answer after →
      kept state → kept after)
    (elsewhere : ∀ state after, setting.outside state after → kept state → kept after)
    {program : Program Call Answer α} {state last : σ} {events : List (Event Answer σ)}
    {outcome : Option α} (run : Runs setting program state events outcome last)
    (begun : kept state) : ∀ event ∈ events, kept event.before ∧ kept event.after := by
  induction run with
  | done | stop | givenUp => exact fun event member => (List.not_mem_nil member).elim
  | outside changed _ inductionHypothesis =>
    exact inductionHypothesis (elsewhere _ _ changed begun)
  | step answered _ inductionHypothesis =>
    have after := step _ _ _ _ answered begun
    intro event member
    rcases List.mem_cons.mp member with rfl | later
    · exact ⟨begun, after⟩
    · exact inductionHypothesis after event later

/-! ### Taking runs apart -/

/-- A program that is done makes no calls; only others go on. -/
theorem Runs.of_done {setting : Setting Answer σ} {value : α} {state last : σ}
    {events : List (Event Answer σ)} {outcome : Option α}
    (run : Runs setting (.done value) state events outcome last) :
    events = [] ∧ outcome = some value ∧ Relation.ReflTransGen setting.outside state last := by
  generalize whole : Program.done value = program at run
  induction run with
  | done =>
    cases whole
    exact ⟨rfl, rfl, .refl⟩
  | outside changed _ inductionHypothesis =>
    obtain ⟨none, same, others⟩ := inductionHypothesis whole
    exact ⟨none, same, others.head changed⟩
  | stop | givenUp | step => cases whole

/-- Two programs in sequence break off in the first one, or the second one goes on from the end of
the first. -/
theorem Runs.bind_cases {setting : Setting Answer σ} {program : Program Call Answer α}
    {continuation : α → Program Call Answer β} {state last : σ} {events : List (Event Answer σ)}
    {outcome : Option β}
    (run : Runs setting (program.bind continuation) state events outcome last) :
    (outcome = none ∧ Runs setting program state events none last) ∨
      ∃ value middle earlier later, Runs setting program state earlier (some value) middle ∧
        Runs setting (continuation value) middle later outcome last ∧
        events = earlier ++ later := by
  have begun (value : α) {state last : σ} {events : List (Event Answer σ)} {outcome : Option β}
      (run : Runs setting ((Program.done value).bind continuation) state events outcome last) :
      ∃ other middle earlier later,
        Runs setting (.done value) state earlier (some other) middle ∧
          Runs setting (continuation other) middle later outcome last ∧
          events = earlier ++ later :=
    ⟨value, state, [], events, .done value state, run, rfl⟩
  generalize whole : program.bind continuation = both at run
  induction run generalizing program with
  | done result state =>
    cases program with
    | done value => exact .inr (begun value (whole ▸ .done result state))
    | step call next => cases whole
  | stop call next state =>
    cases program with
    | done value => exact .inr (begun value (whole ▸ .stop call next state))
    | step call next =>
      cases whole
      exact .inl ⟨rfl, .stop call next state⟩
  | givenUp next given =>
    cases program with
    | done value => exact .inr (begun value (whole ▸ .givenUp next given))
    | step call next =>
      cases whole
      exact .inl ⟨rfl, .givenUp next given⟩
  | outside changed _ inductionHypothesis =>
    rcases inductionHypothesis whole with ⟨none, first⟩ |
      ⟨value, middle, earlier, later, first, second, same⟩
    · exact .inl ⟨none, .outside changed first⟩
    · exact .inr ⟨value, middle, earlier, later, .outside changed first, second, same⟩
  | step answered rest inductionHypothesis =>
    cases program with
    | done value => exact .inr (begun value (whole ▸ .step answered rest))
    | step call next =>
      cases whole
      rcases inductionHypothesis rfl with ⟨none, first⟩ |
        ⟨value, middle, earlier, later, first, second, same⟩
      · exact .inl ⟨none, .step answered first⟩
      · exact .inr ⟨value, middle, _ :: earlier, later, .step answered first, second,
          congrArg _ same⟩

/-- Two programs in sequence that come to an end come to it one after the other. -/
theorem Runs.of_bind {setting : Setting Answer σ} {program : Program Call Answer α}
    {continuation : α → Program Call Answer β} {state last : σ} {events : List (Event Answer σ)}
    {result : β} (run : Runs setting (program.bind continuation) state events (some result) last) :
    ∃ value middle earlier later, Runs setting program state earlier (some value) middle ∧
      Runs setting (continuation value) middle later (some result) last ∧
      events = earlier ++ later := by
  rcases run.bind_cases with ⟨none, -⟩ | both
  · cases none
  · exact both

/-- A call that comes to an end was answered; others may have gone on before it and after it. -/
theorem Runs.of_call {setting : Setting Answer σ} {request : Call} {answer : Answer request}
    {state last : σ} {events : List (Event Answer σ)}
    (run : Runs setting (call request) state events (some answer) last) :
    ∃ before after, Relation.ReflTransGen setting.outside state before ∧
      setting.answers request before answer after ∧
      Relation.ReflTransGen setting.outside after last ∧
      events = [⟨request, answer, before, after⟩] := by
  generalize whole : call request = program at run
  generalize ends : some answer = outcome at run
  induction run with
  | done => cases whole
  | stop | givenUp => cases ends
  | outside changed _ inductionHypothesis =>
    obtain ⟨before, after, others, answered, rest, same⟩ := inductionHypothesis whole ends
    exact ⟨before, after, others.head changed, answered, rest, same⟩
  | step answered rest _ =>
    cases whole
    obtain ⟨none, same, others⟩ := rest.of_done
    cases ends.trans same
    exact ⟨_, _, .refl, answered, others, congrArg _ none⟩

/-- The calls that are made when a program is carried out and others do something before each of
them. -/
def eventsAmong (meddle : Call → σ → σ) (perform : (call : Call) → σ → Answer call × σ) :
    Program Call Answer α → σ → List (Event Answer σ)
  | done _, _ => []
  | step call next, state =>
    let before := meddle call state
    let answered := perform call before
    ⟨call, answered.1, before, answered.2⟩ ::
      eventsAmong meddle perform (next answered.1) answered.2

/-- Carrying a program out among others is one of its runs, where the calls may be carried out and
the others may do what they do. -/
theorem runs_eventsAmong (setting : Setting Answer σ) (meddle : Call → σ → σ)
    (perform : (call : Call) → σ → Answer call × σ)
    (allowed : ∀ call state,
      setting.answers call state (perform call state).1 (perform call state).2)
    (meddles : ∀ call state, meddle call state = state ∨ setting.outside state (meddle call state))
    (program : Program Call Answer α) (state : σ) :
    Runs setting program state (program.eventsAmong meddle perform state)
      (some (program.run (fun call state => perform call (meddle call state)) state).1)
      (program.run (fun call state => perform call (meddle call state)) state).2 := by
  induction program generalizing state with
  | done result => exact .done result state
  | step call next inductionHypothesis =>
    have run := Runs.step (allowed call (meddle call state)) (inductionHypothesis _ _)
    rcases meddles call state with nothing | changed
    · rw [nothing] at run
      unfold eventsAmong Program.run
      rw [nothing]
      exact run
    · exact .outside changed run

/-- Carrying a program out is one of its runs, where the calls may be carried out. -/
theorem exists_runs_run (setting : Setting Answer σ)
    (perform : (call : Call) → σ → Answer call × σ)
    (allowed : ∀ call state,
      setting.answers call state (perform call state).1 (perform call state).2)
    (program : Program Call Answer α) (state : σ) :
    ∃ events, Runs setting program state events (some (program.run perform state).1)
      (program.run perform state).2 :=
  ⟨_, runs_eventsAmong setting (fun _ state => state) perform allowed (fun _ _ => .inl rfl) program
    state⟩

/-! ### Following the state -/

/-- Every run of the program from the state ends with an outcome and a state as required, if nobody
else changes the state meanwhile. -/
def Ensures (setting : Setting Answer σ) (post : Option α → σ → Prop) :
    Program Call Answer α → σ → Prop
  | .done result, state => post (some result) state
  | .step call next, state =>
    post none state ∧ (∀ last, setting.givesUp call state last → post none last) ∧
      ∀ answer after, setting.answers call state answer after →
        Ensures setting post (next answer) after

/-- What a program has to end with so that the program that continues it ends as required. -/
def thenEnsures (setting : Setting Answer σ) (post : Option β → σ → Prop)
    (continuation : α → Program Call Answer β) : Option α → σ → Prop
  | none, state => post none state
  | some result, state => Ensures setting post (continuation result) state

theorem Runs.ends {setting : Setting Answer σ} (alone : ∀ state after, ¬setting.outside state after)
    {program : Program Call Answer α} {state last : σ} {events : List (Event Answer σ)}
    {outcome : Option α} (run : Runs setting program state events outcome last)
    {post : Option α → σ → Prop} (ensures : Ensures setting post program state) :
    post outcome last := by
  induction run with
  | done => exact ensures
  | stop => exact ensures.1
  | givenUp _ given => exact ensures.2.1 _ given
  | outside changed => exact absurd changed (alone _ _)
  | step answered _ inductionHypothesis =>
    exact inductionHypothesis (ensures.2.2 _ _ answered)

/-- What is ensured can be weakened. -/
theorem Ensures.mono {setting : Setting Answer σ} {post weaker : Option α → σ → Prop}
    {program : Program Call Answer α} {state : σ} (ensures : Ensures setting post program state)
    (implies : ∀ outcome last, post outcome last → weaker outcome last) :
    Ensures setting weaker program state := by
  induction program generalizing state with
  | done result => exact implies _ _ ensures
  | step call next inductionHypothesis =>
    refine ⟨implies _ _ ensures.1, fun last given => implies _ _ (ensures.2.1 last given), ?_⟩
    intro answer after answered
    exact inductionHypothesis answer (ensures.2.2 answer after answered)

/-- What is ensured at every end holds already where the program begins. -/
theorem Ensures.here {setting : Setting Answer σ} {kept : σ → Prop}
    {program : Program Call Answer α}
    {state : σ} (ensures : Ensures setting (fun _ => kept) program state) : kept state := by
  cases program with
  | done result => exact ensures
  | step call next => exact ensures.1

/-- Two programs in sequence end as required if the first ends so that the second does. -/
theorem Ensures.bind {setting : Setting Answer σ} {post : Option β → σ → Prop}
    {program : Program Call Answer α} {continuation : α → Program Call Answer β} {state : σ}
    (first : Ensures setting (thenEnsures setting post continuation) program state) :
    Ensures setting post (program.bind continuation) state := by
  induction program generalizing state with
  | done result => exact first
  | step call next inductionHypothesis =>
    refine ⟨first.1, first.2.1, ?_⟩
    intro answer after answered
    exact inductionHypothesis answer (first.2.2 answer after answered)

/-! ### Following the answers -/

/-- As long as calls are answered honestly, the program makes only fine calls, and its result is as
required. -/
def Upholds (honest : (call : Call) → Answer call → Prop) (fine : Call → Prop) (post : α → Prop) :
    Program Call Answer α → Prop
  | .done result => post result
  | .step call next =>
    fine call ∧ ∀ answer, honest call answer → Upholds honest fine post (next answer)

section Upholds

variable {honest : (call : Call) → Answer call → Prop} {fine : Call → Prop}

theorem upholds_bind {post : β → Prop} (program : Program Call Answer α)
    (continuation : α → Program Call Answer β) :
    Upholds honest fine post (program.bind continuation) ↔
      Upholds honest fine (fun result => Upholds honest fine post (continuation result))
        program := by
  induction program with
  | done result => exact Iff.rfl
  | step call next inductionHypothesis =>
    exact and_congr Iff.rfl (forall₂_congr fun answer _ => inductionHypothesis answer)

/-- One call and then other steps. -/
theorem upholds_call_bind {post : β → Prop} (request : Call)
    (continuation : Answer request → Program Call Answer β) :
    Upholds honest fine post ((call request).bind continuation) ↔
      fine request ∧ ∀ answer, honest request answer →
        Upholds honest fine post (continuation answer) :=
  Iff.rfl

theorem Upholds.mono {post weaker : α → Prop} {program : Program Call Answer α}
    (upholds : Upholds honest fine post program) (implies : ∀ result, post result → weaker result) :
    Upholds honest fine weaker program := by
  induction program with
  | done result => exact implies _ upholds
  | step call next inductionHypothesis =>
    exact ⟨upholds.1, fun answer given => inductionHypothesis answer (upholds.2 answer given)⟩

/-- Where every call is fine and every result will do, nothing is asked of a program. -/
theorem upholds_trivial (program : Program Call Answer α) :
    Upholds honest (fun _ => True) (fun _ => True) program := by
  induction program with
  | done result => trivial
  | step call next inductionHypothesis =>
    exact ⟨trivial, fun answer _ => inductionHypothesis answer⟩

/-- What a program upholds is upheld by the one that makes other calls instead, as fine as its. -/
theorem Upholds.relabel {Other : Type} {Reply : Other → Type} {wide : Other → Prop}
    {rename : Call → Other} {answer : (request : Call) → Reply (rename request) → Answer request}
    {post : α → Prop} {program : Program Call Answer α}
    (upholds : Upholds (fun _ _ => True) fine post program)
    (implies : ∀ call, fine call → wide (rename call)) :
    Upholds (fun _ _ => True) wide post (program.relabel rename answer) := by
  induction program with
  | done result => exact upholds
  | step call next inductionHypothesis =>
    exact ⟨implies call upholds.1, fun reply _ =>
      inductionHypothesis (answer call reply) (upholds.2 _ trivial)⟩

/-- Fine calls can be taken to be fine in a wider sense. -/
theorem Upholds.of_fine {wider : Call → Prop} {post : α → Prop} {program : Program Call Answer α}
    (upholds : Upholds (fun _ _ => True) fine post program)
    (implies : ∀ call, fine call → wider call) : Upholds honest wider post program := by
  induction program with
  | done result => exact upholds
  | step call next inductionHypothesis =>
    exact ⟨implies _ upholds.1, fun answer _ =>
      inductionHypothesis answer (upholds.2 answer trivial)⟩

/-- What is kept by fine calls, and makes their answers honest, is kept by a program that makes fine
calls as long as they are answered honestly; and its result is as required. -/
theorem Upholds.ensures {setting : Setting Answer σ} {kept : σ → Prop} {post : α → Prop}
    (carried : ∀ call state answer after, fine call → kept state →
      setting.answers call state answer after → honest call answer ∧ kept after)
    (givenUp : ∀ call state last, fine call → kept state → setting.givesUp call state last →
      kept last)
    {program : Program Call Answer α} {state : σ} (upholds : Upholds honest fine post program)
    (begun : kept state) :
    Ensures setting (fun outcome last => kept last ∧ ∀ result, outcome = some result → post result)
      program state := by
  induction program generalizing state with
  | done result =>
    refine ⟨begun, fun other same => ?_⟩
    cases same
    exact upholds
  | step call next inductionHypothesis =>
    refine ⟨⟨begun, nofun⟩, fun last given =>
      ⟨givenUp call state last upholds.1 begun given, nofun⟩, ?_⟩
    intro answer after answered
    obtain ⟨honestly, still⟩ := carried call state answer after upholds.1 begun answered
    exact inductionHypothesis answer (upholds.2 answer honestly) still

/-- In a run whose calls were answered honestly all calls are fine, and the result is as required,
whatever others did to the state. -/
theorem Runs.upholds {setting : Setting Answer σ} {program : Program Call Answer α} {state last : σ}
    {events : List (Event Answer σ)} {outcome : Option α}
    (run : Runs setting program state events outcome last) {post : α → Prop}
    (upholds : Upholds honest fine post program)
    (honestly : ∀ event ∈ events, honest event.call event.answer) :
    (∀ event ∈ events, fine event.call) ∧ ∀ result, outcome = some result → post result := by
  induction run with
  | done result =>
    refine ⟨fun event member => (List.not_mem_nil member).elim, fun other same => ?_⟩
    cases same
    exact upholds
  | stop | givenUp => exact ⟨fun event member => (List.not_mem_nil member).elim, nofun⟩
  | outside _ _ inductionHypothesis => exact inductionHypothesis upholds honestly
  | step _ _ inductionHypothesis =>
    obtain ⟨fineLater, result⟩ := inductionHypothesis
      (upholds.2 _ (honestly _ List.mem_cons_self))
      fun event member => honestly event (List.mem_cons_of_mem _ member)
    refine ⟨fun event member => ?_, result⟩
    rcases List.mem_cons.mp member with rfl | later
    · exact upholds.1
    · exact fineLater event later

end Upholds

end ReleaseCatalog.Program
