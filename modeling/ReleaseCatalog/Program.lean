/-
Programs as data. A program either is done or makes a call and continues with whatever the call
answers. What the calls mean is left open: the same program can be run against a store, be
interrupted at any call, be interleaved with other programs, or be given every possible answer.
-/

namespace ReleaseCatalog

/-- A program that makes calls of the type `Call`, each with its own type of answer. -/
inductive Program (Call : Type) (Answer : Call → Type) (α : Type) : Type where
  | done (result : α)
  | step (call : Call) (next : Answer call → Program Call Answer α)

namespace Program

variable {Call : Type} {Answer : Call → Type} {α β σ : Type}

instance [Inhabited α] : Inhabited (Program Call Answer α) := ⟨.done default⟩

/-- Runs a program and continues with its result. -/
def bind : Program Call Answer α → (α → Program Call Answer β) → Program Call Answer β
  | done result, continuation => continuation result
  | step call next, continuation => step call fun answer => (next answer).bind continuation

instance : Monad (Program Call Answer) where
  pure := done
  bind := bind

/-- The program that makes one call and answers what it answers. -/
def call (request : Call) : Program Call Answer (Answer request) :=
  step request done

/-- Runs a program on a state, given what each call answers there and what it does to it. -/
def run (perform : (request : Call) → σ → Answer request × σ) :
    Program Call Answer α → σ → α × σ
  | done result, state => (result, state)
  | step request next, state =>
    let (answer, after) := perform request state
    (next answer).run perform after

/-- The program that makes other calls instead: each call is replaced by one whose answer
contains the answer of the first. -/
def relabel {Other : Type} {Reply : Other → Type} (rename : Call → Other)
    (answer : (request : Call) → Reply (rename request) → Answer request) :
    Program Call Answer α → Program Other Reply α
  | done result => done result
  | step request next =>
    step (rename request) fun reply => (next (answer request reply)).relabel rename answer

theorem pure_bind (result : α) (continuation : α → Program Call Answer β) :
    (done result).bind continuation = continuation result := rfl

theorem bind_done (program : Program Call Answer α) : program.bind done = program := by
  induction program with
  | done result => rfl
  | step call next ih => simp [bind, ih]

theorem bind_assoc {γ : Type} (program : Program Call Answer α)
    (first : α → Program Call Answer β) (second : β → Program Call Answer γ) :
    (program.bind first).bind second = program.bind fun result => (first result).bind second := by
  induction program with
  | done result => rfl
  | step call next ih => simp [bind, ih]

instance : LawfulMonad (Program Call Answer) :=
  LawfulMonad.mk' _ bind_done pure_bind bind_assoc

/-- Running two programs in sequence is running the second in the state that the first leaves. -/
theorem run_bind (perform : (request : Call) → σ → Answer request × σ)
    (program : Program Call Answer α) (continuation : α → Program Call Answer β) (state : σ) :
    (program.bind continuation).run perform state =
      (continuation (program.run perform state).1).run perform (program.run perform state).2 := by
  induction program generalizing state with
  | done result => rfl
  | step call next ih => simp [bind, run, ih]

end Program

end ReleaseCatalog
