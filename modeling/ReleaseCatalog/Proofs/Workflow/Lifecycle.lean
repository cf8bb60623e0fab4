/-
The life of a version. Every document that a request puts into a slot is made of the one that stands
there, by a move that the rules allow; so the documents of a slot are a chain of moves, and their
states are a path in the graph of the rules for the type of the version, which no move changes.

Of the built-in rules only single moves are checked, for all types and states at once. What follows
for paths of any length is shown by induction: nothing comes after a state in which a version was
abandoned, a published version has to be reopened before it can be abandoned, and it was not
published before its editorial steps were made.
-/

import Mathlib.Data.List.Chain
import ReleaseCatalog.Proofs.Workflow.Cascade
import ReleaseCatalog.Proofs.Workflow.Metadata

namespace ReleaseCatalog

/-- Whether work on a version in this state was given up. -/
def State.isAbandoned : State → Bool
  | detached | failed => true
  | _ => false

/-- The states in which a version of the type must have been before it enters a state, in their
order, if its life began when it was created. -/
def DatasetType.editorialSteps (type : DatasetType) : State → List State
  | .editionConfirmed => if type.isStatic then [] else [.completed]
  | .associated => if type.isStatic then [] else [.completed, .editionConfirmed]
  | .published =>
    if type.isStatic then [.associated]
    else if type.isCantabular then [.completed, .editionConfirmed]
    else [.completed, .editionConfirmed, .associated]
  | _ => []

/-! ### Paths in the built-in rules -/

namespace TransitionTable

/-- The rules let versions of the type go from one state into another. -/
def Allows (table : TransitionTable) (type : DatasetType) (source target : State) : Prop :=
  table.check (some source) target type = .ok ()

instance (table : TransitionTable) (type : DatasetType) (source target : State) :
    Decidable (table.Allows type source target) :=
  inferInstanceAs (Decidable (_ = _))

variable {type : DatasetType} {source target : State} {front states back : List State}

/-- What holds of all single moves that the built-in rules allow. -/
theorem of_allows_builtIn (law : DatasetType → State → State → Prop)
    (checked : ∀ type ∈ DatasetType.all, ∀ source ∈ State.all, ∀ target ∈ State.all,
      builtIn.Allows type source target → law type source target)
    (allowed : builtIn.Allows type source target) : law type source target :=
  checked type type.mem_all source source.mem_all target target.mem_all allowed

/-- A version without a state can make no move. -/
theorem exists_source_of_check {table : TransitionTable} {current : Option State}
    (allowed : table.check current target type = .ok ()) :
    ∃ source, current = some source ∧ table.Allows type source target := by
  cases current with
  | some source => exact ⟨source, rfl, allowed⟩
  | none =>
    unfold check at allowed
    cases found : table.sources? target type <;> simp [found] at allowed

/-- The rules allow the move from a stored version to a candidate, from state to state and for the
type of the candidate. -/
def AllowsMove (table : TransitionTable) (stored candidate : Version) : Prop :=
  ∃ type source target, DatasetType.resolve? candidate.type = some type ∧
    stored.state = some source ∧ candidate.state = some target ∧ table.Allows type source target

theorem allowsMove_of_checkMove {table : TransitionTable} {stored candidate : Version}
    (passed : TransitionContext.checkMove table stored candidate = .ok ()) :
    table.AllowsMove stored candidate := by
  obtain ⟨-, target, type, state, resolved, allowed⟩ :=
    TransitionContext.checkMove_eq_ok_iff.mp passed
  obtain ⟨source, current, allowed⟩ := exists_source_of_check allowed
  exact ⟨type, source, target, DatasetType.resolve_eq_ok_iff.mp resolved, current, state, allowed⟩

/-- No version leaves a state in which it was abandoned. -/
theorem not_isAbandoned_of_allows :
    builtIn.Allows type source target → source.isAbandoned = false :=
  of_allows_builtIn (fun _ source _ => source.isAbandoned = false) (by decide +kernel)

/-- A published version stays published, or it is an imported one that is reopened. -/
theorem published_or_reopened_of_allows :
    builtIn.Allows type .published target →
      target = .published ∨ type ≠ .static ∧ target = .editionConfirmed := by
  refine fun allowed => of_allows_builtIn (fun type source target => source = .published →
    target = .published ∨ type ≠ .static ∧ target = .editionConfirmed) ?_ allowed rfl
  decide +kernel

/-- A state is entered from one that has all its editorial steps behind it. -/
theorem editorialSteps_of_allows :
    builtIn.Allows type source target →
      (type.editorialSteps target).Sublist (type.editorialSteps source ++ [source]) :=
  of_allows_builtIn (fun type source target =>
    (type.editorialSteps target).Sublist (type.editorialSteps source ++ [source]))
    (by decide +kernel)

/-- A path that comes to a state in which the version was abandoned ends there. -/
theorem eq_nil_of_isAbandoned (path : (source :: states).IsChain (builtIn.Allows type))
    (abandoned : source.isAbandoned = true) : states = [] := by
  cases path with
  | singleton => rfl
  | cons_cons allowed => cases abandoned.symm.trans (not_isAbandoned_of_allows allowed)

/-- On a path from published to abandoned the version was reopened. -/
theorem reopened_of_isAbandoned
    (path : (.published :: (front ++ target :: back)).IsChain (builtIn.Allows type))
    (abandoned : target.isAbandoned = true) : type ≠ .static ∧ .editionConfirmed ∈ front := by
  induction front with
  | nil =>
    rcases published_or_reopened_of_allows (List.isChain_cons_cons.mp path).1 with rfl | ⟨-, rfl⟩ <;>
      cases abandoned
  | cons first rest inductionHypothesis =>
    obtain ⟨allowed, onward⟩ := List.isChain_cons_cons.mp path
    rcases published_or_reopened_of_allows allowed with rfl | ⟨imported, rfl⟩
    · obtain ⟨imported, member⟩ := inductionHypothesis onward
      exact ⟨imported, List.mem_cons_of_mem _ member⟩
    · exact ⟨imported, List.mem_cons_self⟩

/-- Whatever state a path comes to, the editorial steps to it were made before, on the path or
earlier. -/
theorem editorialSteps_sublist_of_path (seen : List State)
    (path : (source :: (front ++ target :: back)).IsChain (builtIn.Allows type))
    (before : (type.editorialSteps source).Sublist seen) :
    (type.editorialSteps target).Sublist (seen ++ source :: front) := by
  induction front generalizing source seen with
  | nil =>
    have allowed := (List.isChain_cons_cons.mp path).1
    exact (editorialSteps_of_allows allowed).trans (before.append_right [source])
  | cons first rest inductionHypothesis =>
    obtain ⟨allowed, onward⟩ := List.isChain_cons_cons.mp path
    rw [List.append_cons]
    exact inductionHypothesis _ onward
      ((editorialSteps_of_allows allowed).trans (before.append_right [source]))

/-- On a path from where a version is created all editorial steps to a state come before it. -/
theorem editorialSteps_sublist_of_created
    (path : (.created :: (front ++ target :: back)).IsChain (builtIn.Allows type)) :
    (type.editorialSteps target).Sublist front := by
  have unneeded : ∀ type ∈ DatasetType.all, ∀ target ∈ State.all,
      .created ∉ type.editorialSteps target := by decide
  have within := editorialSteps_sublist_of_path [] path (List.nil_sublist _)
  rcases List.sublist_cons_iff.mp within with kept | ⟨rest, first, -⟩
  · exact kept
  · exact absurd (first ▸ List.mem_cons_self)
      (unneeded type type.mem_all target target.mem_all)

end TransitionTable

/-! ### Chains of moves -/

namespace Version

/-- The later document may have replaced the earlier one in its slot: an update makes it of the
earlier one, by a move that the rules allow. -/
def Moves (table : TransitionTable) (earlier later : Version) : Prop :=
  ∃ now update, TransitionContext.checkMove table earlier (combine earlier update) = .ok () ∧
    later = stamp now earlier (combine earlier update)

variable {table : TransitionTable} {earlier later stored : Version} {documents : List Version}

/-- What was checked has a release date, if its state requires release metadata. -/
theorem releaseDate_ne_empty_of_validate {candidate : Version} {target : State}
    (valid : candidate.validate = .ok ()) (state : candidate.state = some target)
    (required : target.requiresReleaseMetadata = true) : candidate.releaseDate ≠ "" := by
  obtain ⟨-, -, complete⟩ := validate_eq_ok_iff.mp valid
  have nothing := missingFields_eq_nil_iff.mp (complete ((needsMetadata_iff state).mpr required))
  exact nothing .releaseDate

/-- A document that was put into a state that requires release metadata has a release date. -/
theorem Moves.releaseDate {target : State} (moves : Moves table earlier later)
    (state : later.state = some target) (required : target.requiresReleaseMetadata = true) :
    later.releaseDate ≠ "" := by
  obtain ⟨now, update, checked, rfl⟩ := moves
  obtain ⟨valid, -⟩ := TransitionContext.checkMove_eq_ok_iff.mp checked
  exact releaseDate_ne_empty_of_validate valid state required

/-- A move is one from state to state, for the type of the version. -/
theorem Moves.allows (moves : Moves table earlier later) :
    ∃ type source target, DatasetType.resolve? earlier.type = some type ∧
      DatasetType.resolve? later.type = some type ∧ earlier.state = some source ∧
      later.state = some target ∧ table.Allows type source target := by
  obtain ⟨now, update, checked, rfl⟩ := moves
  obtain ⟨type, source, target, known, current, state, allowed⟩ :=
    TransitionTable.allowsMove_of_checkMove checked
  exact ⟨type, source, target, known, known, current, state, allowed⟩

/-- In a chain of moves every document but the first one was moved to. -/
theorem exists_moves_of_mem {document : Version}
    (moves : (stored :: documents).IsChain (Moves table)) (member : document ∈ documents) :
    ∃ earlier, Moves table earlier document := by
  obtain ⟨front, back, rfl⟩ := List.append_of_mem member
  rw [← List.cons_append] at moves
  obtain ⟨-, -, last⟩ := List.isChain_append.mp moves
  exact ⟨_, last _ List.getLast?_cons document rfl⟩

/-- The states of a chain of moves are a path in the rules for its type. -/
theorem exists_path_of_moves {type : DatasetType} {source : State}
    (moves : (stored :: documents).IsChain (Moves table))
    (known : DatasetType.resolve? stored.type = some type) (current : stored.state = some source) :
    ∃ states, documents.map (·.state) = states.map some ∧
      (source :: states).IsChain (table.Allows type) := by
  induction documents generalizing stored source with
  | nil => exact ⟨[], rfl, .singleton source⟩
  | cons document rest inductionHypothesis =>
    obtain ⟨move, onward⟩ := List.isChain_cons_cons.mp moves
    obtain ⟨_, _, target, resolved, kept, left, entered, allowed⟩ := move.allows
    cases known.symm.trans resolved
    cases current.symm.trans left
    obtain ⟨states, visited, path⟩ := inductionHypothesis onward kept entered
    exact ⟨target :: states, by simp [entered, visited], path.cons_cons allowed⟩

/-- To every document of a chain of moves there is a path through the states before it. -/
theorem exists_path_to_of_moves {front back : List Version} {last : Version}
    (moves : (stored :: (front ++ last :: back)).IsChain (Moves table)) :
    ∃ type source states target rest, DatasetType.resolve? stored.type = some type ∧
      stored.state = some source ∧ front.map (·.state) = states.map some ∧
      last.state = some target ∧ (source :: (states ++ target :: rest)).IsChain
        (table.Allows type) := by
  have started : ∃ type source, DatasetType.resolve? stored.type = some type ∧
      stored.state = some source := by
    cases front with
    | nil | cons =>
      obtain ⟨type, source, -, known, -, current, -⟩ := (List.isChain_cons_cons.mp moves).1.allows
      exact ⟨type, source, known, current⟩
  obtain ⟨type, source, known, current⟩ := started
  obtain ⟨all, visited, path⟩ := exists_path_of_moves moves known current
  rw [List.map_append] at visited
  obtain ⟨states, later, rfl, before, after⟩ := List.append_eq_map_iff.mp visited
  obtain ⟨target, rest, rfl, entered, -⟩ := List.map_eq_cons_iff.mp after
  exact ⟨type, source, states, target, rest, known, current, before.symm, entered.symm, path⟩

/-- No document comes after one in a state in which the version was abandoned. -/
theorem eq_nil_of_isAbandoned {target : State}
    (moves : (stored :: documents).IsChain (Moves .builtIn)) (current : stored.state = some target)
    (abandoned : target.isAbandoned = true) : documents = [] := by
  cases documents with
  | nil => rfl
  | cons document rest =>
    have split : (stored :: ([] ++ document :: rest)).IsChain (Moves .builtIn) := moves
    obtain ⟨_, _, states, _, _, -, left, -, -, path⟩ := exists_path_to_of_moves split
    cases current.symm.trans left
    cases states <;> cases TransitionTable.eq_nil_of_isAbandoned path abandoned

/-- Between a published document and one in a state in which the version was abandoned the version
was reopened. -/
theorem reopened_of_isAbandoned {front back : List Version} {target : State} {last : Version}
    (moves : (stored :: (front ++ last :: back)).IsChain (Moves .builtIn))
    (published : stored.state = some .published) (entered : last.state = some target)
    (abandoned : target.isAbandoned = true) :
    DatasetType.resolve? stored.type ≠ some .static ∧
      ∃ reopened ∈ front, reopened.state = some .editionConfirmed := by
  obtain ⟨type, _, states, _, _, known, left, before, come, path⟩ := exists_path_to_of_moves moves
  cases published.symm.trans left
  cases entered.symm.trans come
  obtain ⟨imported, visited⟩ := TransitionTable.reopened_of_isAbandoned path abandoned
  refine ⟨fun static => imported (Option.some_inj.mp (known.symm.trans static)), ?_⟩
  have member : some .editionConfirmed ∈ front.map (·.state) := before ▸ List.mem_map_of_mem visited
  exact List.mem_map.mp member

/-- Before a version that began when it was created has come to a state, its editorial steps to that
state were made. -/
theorem editorialSteps_of_created {front back : List Version} {target : State} {last : Version}
    (moves : (stored :: (front ++ last :: back)).IsChain (Moves .builtIn))
    (created : stored.state = some .created) (entered : last.state = some target) :
    ∃ type, DatasetType.resolve? stored.type = some type ∧
      ((type.editorialSteps target).map some).Sublist (front.map (·.state)) := by
  obtain ⟨type, _, states, _, _, known, left, before, come, path⟩ := exists_path_to_of_moves moves
  cases created.symm.trans left
  cases entered.symm.trans come
  refine ⟨type, known, before ▸ ?_⟩
  exact (TransitionTable.editorialSteps_sublist_of_created path).map some

end Version

end ReleaseCatalog
