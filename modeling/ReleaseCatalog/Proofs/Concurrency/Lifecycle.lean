/-
The lives of versions under many requests. Any number of requests, for any versions, run at a
disturbed site under the built-in rules, and nobody else writes versions. Then the documents that
have stood in a slot are a chain of moves, whatever is interleaved and whatever fails, and what was
shown of such chains holds of every run.
-/

import ReleaseCatalog.Proofs.Concurrency.Cascades
import ReleaseCatalog.Proofs.Concurrency.History
import ReleaseCatalog.Proofs.Workflow.Gate
import ReleaseCatalog.Proofs.Workflow.Lifecycle

namespace ReleaseCatalog

variable {ι : Type}

/-! ### The documents of a slot -/

/-- The documents that have stood in a slot, one after another: the one with which the run began,
if there was one, and those that were put there since. -/
def Happening.history (start : Site) (slot : VersionKey) (trace : List (Happening ι)) :
    List Version :=
  (start.catalog.versions.get? slot).toList ++ documents slot trace

theorem Happening.history_of_content {start : Site} {details : VersionDetails} {stored : Version}
    (found : start.content details = some stored) (trace : List (Happening ι)) :
    history start details.slot trace = stored :: documents details.slot trace :=
  congrArg (·.toList ++ documents details.slot trace) found

namespace Revisions

variable {calls : ι → Amendment} {table : TransitionTable} {found content : Option Version}
  {callers : List ι} {documents : List Version}

/-- Requests that put no document into a slot leave it as it was. -/
theorem of_nil (revisions : Revisions calls found callers [] content) :
    callers = [] ∧ content = found := by
  generalize none : ([] : List Version) = documents at revisions
  cases revisions with
  | begun => exact ⟨rfl, rfl⟩
  | revised => cases List.append_eq_nil_iff.mp none.symm |>.2

/-- What stands in a slot stands at the end of a chain of moves. -/
theorem moves (revisions : Revisions calls found callers documents content)
    (same : ∀ caller, (calls caller).machine.transitions = table) :
    content = (found.toList ++ documents).getLast? ∧
      (found.toList ++ documents).IsChain (Version.Moves table) := by
  induction revisions with
  | begun => cases found <;> simp
  | @revised callers documents stored caller now _ allowed inductionHypothesis =>
    obtain ⟨last, chain⟩ := inductionHypothesis
    rw [← List.append_assoc]
    refine ⟨by simp, List.isChain_append.mpr ⟨chain, .singleton _, ?_⟩⟩
    rintro earlier here later ⟨⟩
    cases Option.some_inj.mp (last.trans here)
    exact ⟨now, (calls caller).update, same caller ▸ allowed, rfl⟩

/-- Nobody replaces a version that was abandoned under the built-in rules. -/
theorem of_isAbandoned {stored : Version} {target : State}
    (revisions : Revisions calls (some stored) callers documents content)
    (builtIn : ∀ caller, (calls caller).machine.transitions = .builtIn)
    (entered : stored.state = some target) (given : target.isAbandoned = true) :
    callers = [] ∧ content = some stored := by
  have nothing : documents = [] :=
    Version.eq_nil_of_isAbandoned (revisions.moves builtIn).2 entered given
  subst nothing
  exact revisions.of_nil

end Revisions

/-- A request by the built-in rules for a version that was abandoned fails and leaves the catalog as
it was. -/
theorem Amendment.run_of_isAbandoned {amendment : Amendment} {site : Site}
    {details : VersionDetails} {stored : Version} {target : State}
    (builtIn : amendment.machine.transitions = .builtIn)
    (named : amendment.identifiers.resolve = .ok details) (filed : site.catalog.WellFiled)
    (found : site.content details = some stored) (entered : stored.state = some target)
    (given : target.isAbandoned = true) :
    (∃ error, (amendment.request.run Site.perform site).1 = .error error) ∧
      (amendment.request.run Site.perform site).2.catalog = site.catalog := by
  unfold request Machine.amend
  rw [named]
  by_cases unknown : amendment.update.type ≠ "" ∧
      DatasetType.resolve? amendment.update.type = none
  · simp only [if_pos unknown]
    exact ⟨⟨_, rfl⟩, rfl⟩
  simp only [if_neg unknown]
  cases verdict : amendment.machine.verdict details amendment.update amendment.options
      site.catalog with
  | error error => exact Machine.run_amendVersion_of_verdict_eq_error filed verdict
  | ok current =>
    have passes := Machine.verdict_eq_ok_iff.mp verdict
    cases Option.some_inj.mp (found.symm.trans passes.version)
    have moves : Version.Moves .builtIn stored _ :=
      ⟨default, amendment.update, builtIn ▸ passes.checked, rfl⟩
    cases Version.eq_nil_of_isAbandoned (.cons_cons moves (.singleton _)) entered given

/-! ### Samples of requests that take turns -/

/-- Whether a request has returned. -/
def Progress.isDone {α : Type} : Progress α → Bool
  | .ready (.done _) => true
  | _ => false

/-- The sample with its version as it was created. -/
def Site.sampleAsCreated : Site :=
  { Site.sample with
    catalog := Site.sample.catalog.write (.version ⟨"cpih01", "time-series", 1⟩ {
      id := "import-1", datasetId := "cpih01", edition := "time-series", number := 1
      type := "filterable", state := some .created, releaseDate := "2024-01-17"
      links := some { version := some ⟨"1", "/versions/1"⟩ } }) }

namespace System

/-- One request after another for the first version of a sample, at this site and for these
states. -/
def sampleOfStates (site : Site) (targets : List State) : System Nat (Result Version) where
  site := site
  progress caller := .ready (Amendment.sample "1" (targets.getD caller .created)).request

/-- The system when the first of these requests have been made, each to its end. -/
def inTurn (system : System Nat (Result Version)) (callers : List Nat) :
    System Nat (Result Version) :=
  (callers.flatMap (List.replicate 14)).foldl goOn system

/-- Requests that take turns make a run, and what was put into a slot is in the journal. -/
theorem exists_runs_inTurn (system : System Nat (Result Version))
    (begun : system.site.journal = []) (callers : List Nat) :
    ∃ trace, trace.filterMap Happening.outsider? = [] ∧
      DisturbedRuns system trace (system.inTurn callers) ∧
      ∀ slot, Happening.documents slot trace =
        Write.documentsAt slot (system.inTurn callers).site.journal := by
  obtain ⟨trace, alone, run⟩ := exists_runs_goOn Site.answers_perform system
    (callers.flatMap (List.replicate 14))
  refine ⟨trace, alone, run.disturbed, fun slot => ?_⟩
  unfold inTurn Happening.documents
  rw [run.journal, begun, List.nil_append]

end System

/-! ### Runs of requests for any versions -/

namespace System

variable [DecidableEq ι] {calls : ι → Amendment} {start middle last : System ι (Result Version)}
  {trace earlier later : List (Happening ι)} {details : VersionDetails}

/-- What has stood in a slot since some moment is a chain of moves by the built-in rules, and its
last document stands there. -/
theorem DisturbedRuns.moves (begins : start.Begins calls)
    (builtIn : ∀ caller, (calls caller).machine.transitions = .builtIn)
    (before : DisturbedRuns start earlier middle) (run : DisturbedRuns middle later last)
    (undisturbed : ∀ call site, .outside call site ∈ earlier ++ later → ∀ slot,
      Write.documentsAt slot (call.writes site.now site.catalog) = []) (slot : VersionKey) :
    last.site.catalog.versions.get? slot = (Happening.history middle.site slot later).getLast? ∧
      (Happening.history middle.site slot later).IsChain (Version.Moves .builtIn) := by
  obtain ⟨present, bearer, ledger⟩ := before.exists_ledger begins
    fun call site member => undisturbed call site (List.mem_append_left _ member)
  have apart (call : StoreCall) (site : Site) (member : .outside call site ∈ later) :=
    undisturbed call site (List.mem_append_right _ member)
  exact (ledger.revisions run (fun call site member _ => apart call site member _)
    fun call site member => apart call site member slot).moves builtIn

/-- The sample is published, then its edition is confirmed again, and then it is detached. -/
theorem exists_runs_sampleOfReopening :
    ∃ trace last, trace.filterMap Happening.outsider? = [] ∧
      DisturbedRuns (sampleOfStates Site.sample [.published, .editionConfirmed, .detached]) trace
        last ∧
      ∃ first published reopened abandoned,
        Happening.history Site.sample ⟨"cpih01", "time-series", 1⟩ trace =
          [first, published, reopened, abandoned] ∧
        published.state = some .published ∧ reopened.state = some .editionConfirmed ∧
        abandoned.state = some .detached := by
  obtain ⟨trace, alone, run, documents⟩ := exists_runs_inTurn
    (sampleOfStates Site.sample [.published, .editionConfirmed, .detached]) rfl [0, 1, 2]
  have states : (Happening.history Site.sample ⟨"cpih01", "time-series", 1⟩ trace).map (·.state) =
      [some .associated, some .published, some .editionConfirmed, some .detached] := by
    rw [Happening.history, documents]
    decide +kernel
  obtain ⟨first, _, stood, -, states⟩ := List.map_eq_cons_iff.mp states
  obtain ⟨published, _, rfl, shown, states⟩ := List.map_eq_cons_iff.mp states
  obtain ⟨reopened, _, rfl, confirmed, states⟩ := List.map_eq_cons_iff.mp states
  obtain ⟨abandoned, _, rfl, entered, states⟩ := List.map_eq_cons_iff.mp states
  cases List.map_eq_nil_iff.mp states
  exact ⟨trace, _, alone, run, first, published, reopened, abandoned, stood, shown, confirmed,
    entered⟩

/-- A published version is not abandoned unless it was reopened. Any number of requests under the
built-in rules run at one disturbed site, with their calls interleaved in any way, and nobody else
writes versions. If a version stood published in its slot and stands there later in a state in which
it was abandoned, then it is no static one, and it was stored with its edition confirmed in
between. -/
theorem DisturbedRuns.published_versions_are_reopened_first (begins : start.Begins calls)
    (builtIn : ∀ caller, (calls caller).machine.transitions = .builtIn)
    (run : DisturbedRuns start trace last)
    (undisturbed : ∀ call site, .outside call site ∈ trace → ∀ slot,
      Write.documentsAt slot (call.writes site.now site.catalog) = [])
    {front between back : List Version} {published abandoned : Version} {target : State}
    (stood : Happening.history start.site details.slot trace =
      front ++ published :: (between ++ abandoned :: back))
    (shown : published.state = some .published) (entered : abandoned.state = some target)
    (given : target.isAbandoned = true) :
    DatasetType.resolve? published.type ≠ some .static ∧
      ∃ reopened ∈ between, reopened.state = some .editionConfirmed := by
  have chain := (DisturbedRuns.begun.moves begins builtIn run undisturbed details.slot).2
  rw [stood] at chain
  exact Version.reopened_of_isAbandoned (List.isChain_append.mp chain).2.1 shown entered given

/-- In the sample all conditions are met. -/
theorem DisturbedRuns.published_versions_are_reopened_first_sample :
    let details : VersionDetails := ⟨"cpih01", "time-series", 1⟩
    let targets : List State := [.published, .editionConfirmed, .detached]
    let calls (caller : Nat) := Amendment.sample "1" (targets.getD caller .created)
    let start := sampleOfStates Site.sample targets
    start.Begins calls ∧ (∀ caller, (calls caller).machine.transitions = .builtIn) ∧
    ∃ trace last, DisturbedRuns start trace last ∧
      (∀ call site, .outside call site ∈ trace → ∀ slot,
        Write.documentsAt slot (call.writes site.now site.catalog) = []) ∧
      ∃ front published between abandoned back,
        Happening.history start.site details.slot trace =
          front ++ published :: (between ++ abandoned :: back) ∧
        published.state = some .published ∧ abandoned.state = some .detached ∧
        State.isAbandoned .detached = true ∧
        DatasetType.resolve? published.type ≠ some .static ∧
        ∃ reopened ∈ between, reopened.state = some .editionConfirmed := by
  intro details targets calls start
  have begins : start.Begins calls := ⟨fun _ => rfl, Site.wellFiled_sample, fun _ => rfl⟩
  obtain ⟨trace, last, alone, run, first, published, reopened, abandoned, stood, shown, -,
    entered⟩ := exists_runs_sampleOfReopening
  have undisturbed (call : StoreCall) (site : Site) (member : .outside call site ∈ trace)
      (slot : VersionKey) : Write.documentsAt slot (call.writes site.now site.catalog) = [] :=
    absurd member (Happening.not_outside_of_alone alone call site)
  have split : Happening.history start.site details.slot trace =
      [first] ++ published :: ([reopened] ++ abandoned :: []) := stood
  exact ⟨begins, fun _ => rfl, trace, last, run, undisturbed, [first], published, [reopened],
    abandoned, [], split, shown, entered, rfl,
    DisturbedRuns.published_versions_are_reopened_first begins (fun _ => rfl) run undisturbed split
      shown entered rfl⟩

/-- It does happen that a published version is abandoned, as one that was reopened is. -/
theorem DisturbedRuns.not_published_versions_are_never_abandoned :
    ¬∀ (calls : Nat → Amendment) (start last : System Nat (Result Version))
      (trace : List (Happening Nat)) (details : VersionDetails)
      (front between back : List Version) (published abandoned : Version) (target : State),
      start.Begins calls → (∀ caller, (calls caller).machine.transitions = .builtIn) →
      DisturbedRuns start trace last →
      (∀ call site, .outside call site ∈ trace → ∀ slot,
        Write.documentsAt slot (call.writes site.now site.catalog) = []) →
      Happening.history start.site details.slot trace =
        front ++ published :: (between ++ abandoned :: back) →
      published.state = some .published → abandoned.state = some target →
      target.isAbandoned = false := by
  intro claimed
  obtain ⟨trace, last, alone, run, first, published, reopened, abandoned, stood, shown, -,
    entered⟩ := exists_runs_sampleOfReopening
  have kept := claimed _ _ last trace ⟨"cpih01", "time-series", 1⟩ [first] [reopened] []
    published abandoned .detached ⟨fun _ => rfl, Site.wellFiled_sample, fun _ => rfl⟩
    (fun _ => rfl) run
    (fun call site member => absurd member (Happening.not_outside_of_alone alone call site))
    stood shown entered
  cases kept

/-- A version is not published without its editorial steps. Any number of requests under the
built-in rules run at one disturbed site, with their calls interleaved in any way, and nobody else
writes versions; and at the start a version stands in its slot as it was created. Whenever it is
stored as published, it was stored before as associated if it is a filterable, a Nomis or a static
one, and as completed and then with its edition confirmed if it was imported. And all its documents
with a confirmed edition, and the associated and published ones, have a release date. -/
theorem DisturbedRuns.publications_have_editorial_steps (begins : start.Begins calls)
    (builtIn : ∀ caller, (calls caller).machine.transitions = .builtIn)
    (run : DisturbedRuns start trace last)
    (undisturbed : ∀ call site, .outside call site ∈ trace → ∀ slot,
      Write.documentsAt slot (call.writes site.now site.catalog) = [])
    {stored : Version} (found : start.site.content details = some stored)
    (created : stored.state = some .created) :
    (∀ front published back,
      Happening.documents details.slot trace = front ++ published :: back →
      published.state = some .published →
      ∃ type, DatasetType.resolve? stored.type = some type ∧
        (type ∈ [.filterable, .nomis, .static] →
          ∃ document ∈ front, document.state = some .associated) ∧
        (type ≠ .static →
          [some .completed, some .editionConfirmed].Sublist (front.map (·.state)))) ∧
    ∀ document ∈ Happening.documents details.slot trace,
      document.state ∈ [some .editionConfirmed, some .associated, some .published] →
      document.releaseDate ≠ "" := by
  have chain := (DisturbedRuns.begun.moves begins builtIn run undisturbed details.slot).2
  rw [Happening.history_of_content found] at chain
  constructor
  · intro front published back split shown
    rw [split] at chain
    obtain ⟨type, known, steps⟩ := Version.editorialSteps_of_created chain created shown
    refine ⟨type, known, fun associated => ?_, fun imported => ?_⟩
    · have needed : .associated ∈ type.editorialSteps .published := by
        cases type <;> first | decide | (revert associated; decide)
      exact List.mem_map.mp (steps.subset (List.mem_map_of_mem needed))
    · have needed : [.completed, .editionConfirmed].Sublist (type.editorialSteps .published) := by
        cases type <;> first | decide | (revert imported; decide)
      exact (needed.map some).trans steps
  · intro document member states
    obtain ⟨_, move⟩ := Version.exists_moves_of_mem chain member
    simp only [List.mem_cons, List.not_mem_nil, or_false] at states
    rcases states with state | state | state <;> exact move.releaseDate state rfl

/-- A version of the sample is brought from where it was created to where it is published. -/
theorem DisturbedRuns.publications_have_editorial_steps_sample :
    let details : VersionDetails := ⟨"cpih01", "time-series", 1⟩
    let targets : List State := [.completed, .editionConfirmed, .associated, .published]
    let calls (caller : Nat) := Amendment.sample "1" (targets.getD caller .created)
    let start := sampleOfStates Site.sampleAsCreated targets
    start.Begins calls ∧ (∀ caller, (calls caller).machine.transitions = .builtIn) ∧
    ∃ trace last stored, DisturbedRuns start trace last ∧
      (∀ call site, .outside call site ∈ trace → ∀ slot,
        Write.documentsAt slot (call.writes site.now site.catalog) = []) ∧
      start.site.content details = some stored ∧ stored.state = some .created ∧
      (Happening.documents details.slot trace).map (·.state) = targets.map some ∧
      (∀ front published back,
        Happening.documents details.slot trace = front ++ published :: back →
        published.state = some .published →
        ∃ type, DatasetType.resolve? stored.type = some type ∧
          (type ∈ [.filterable, .nomis, .static] →
            ∃ document ∈ front, document.state = some .associated) ∧
          (type ≠ .static →
            [some .completed, some .editionConfirmed].Sublist (front.map (·.state)))) ∧
      ∀ document ∈ Happening.documents details.slot trace,
        document.state ∈ [some .editionConfirmed, some .associated, some .published] →
        document.releaseDate ≠ "" := by
  intro details targets calls start
  have begins : start.Begins calls :=
    ⟨fun _ => rfl, Site.wellFiled_sample.write rfl, fun _ => rfl⟩
  obtain ⟨trace, alone, run, documents⟩ := exists_runs_inTurn start rfl [0, 1, 2, 3]
  have undisturbed (call : StoreCall) (site : Site) (member : .outside call site ∈ trace)
      (slot : VersionKey) : Write.documentsAt slot (call.writes site.now site.catalog) = [] :=
    absurd member (Happening.not_outside_of_alone alone call site)
  have states : (Happening.documents details.slot trace).map (·.state) = targets.map some := by
    rw [documents]
    decide +kernel
  exact ⟨begins, fun _ => rfl, trace, _, _, run, undisturbed, rfl, rfl, states,
    DisturbedRuns.publications_have_editorial_steps begins (fun _ => rfl) run undisturbed rfl rfl⟩

/-- Abandoned versions are frozen. Any number of requests under the built-in rules run at one
disturbed site, with their calls interleaved in any way, and nobody else writes versions. Once a
version stands in its slot in a state in which it was abandoned, it stays as it is. No request for
it that has not put a document there before writes anything from then on, and none returns anything
but an error. And whoever asks for it later fails and leaves the catalog as it was. -/
theorem DisturbedRuns.abandoned_versions_are_frozen (begins : start.Begins calls)
    (builtIn : ∀ caller, (calls caller).machine.transitions = .builtIn)
    (before : DisturbedRuns start earlier middle) (run : DisturbedRuns middle later last)
    (undisturbed : ∀ call site, .outside call site ∈ earlier ++ later → ∀ slot,
      Write.documentsAt slot (call.writes site.now site.catalog) = [])
    {stored : Version} (found : middle.site.content details = some stored) {target : State}
    (entered : stored.state = some target) (given : target.isAbandoned = true) :
    last.site.content details = some stored ∧
    (∀ caller, (calls caller).identifiers.resolve = .ok details →
      caller ∉ Happening.writers details.slot earlier →
        (∀ site writes, .called caller site writes ∈ later → writes = []) ∧
        ∀ result, last.progress caller = .ready (.done result) → ∃ error, result = .error error) ∧
    ∀ amendment : Amendment, amendment.machine.transitions = .builtIn →
      amendment.identifiers.resolve = .ok details →
        (∃ error, (amendment.request.run Site.perform last.site).1 = .error error) ∧
          (amendment.request.run Site.perform last.site).2.catalog = last.site.catalog := by
  have apart (call : StoreCall) (site : Site) (member : .outside call site ∈ later) :=
    undisturbed call site (List.mem_append_right _ member)
  obtain ⟨present, bearer, ledger⟩ := before.exists_ledger begins
    fun call site member => undisturbed call site (List.mem_append_left _ member)
  obtain ⟨_, _, kept⟩ := ledger.along run fun call site member _ => apart call site member _
  have revisions := ledger.revisions run (fun call site member _ => apart call site member _)
    fun call site member => apart call site member details.slot
  rw [show middle.site.catalog.versions.get? details.slot = some stored from found] at revisions
  obtain ⟨nobody, stands⟩ := revisions.of_isAbandoned builtIn entered given
  refine ⟨stands, fun caller named fresh => ?_, fun amendment rules named => ?_⟩
  · have fresh : caller ∉ Happening.writers (calls caller).subject.slot (earlier ++ later) := by
      rwa [Amendment.subject_eq named, Happening.writers_append, nobody, List.append_nil]
    refine ⟨fun site writes member => ?_, fun result => kept.eq_error_of_returned fresh⟩
    exact Happening.eq_nil_of_entries (kept.entries_eq_nil fresh) (List.mem_append_right _ member)
  · exact Amendment.run_of_isAbandoned rules named kept.filed stands entered given

/-- The sample is detached, and then nobody publishes it. -/
theorem DisturbedRuns.abandoned_versions_are_frozen_sample :
    let details : VersionDetails := ⟨"cpih01", "time-series", 1⟩
    let targets : List State := [.detached, .published]
    let calls (caller : Nat) := Amendment.sample "1" (targets.getD caller .created)
    let start := sampleOfStates Site.sample targets
    start.Begins calls ∧ (∀ caller, (calls caller).machine.transitions = .builtIn) ∧
    ∃ earlier middle later last stored, DisturbedRuns start earlier middle ∧
      DisturbedRuns middle later last ∧
      (∀ call site, .outside call site ∈ earlier ++ later → ∀ slot,
        Write.documentsAt slot (call.writes site.now site.catalog) = []) ∧
      middle.site.content details = some stored ∧ stored.state = some .detached ∧
      State.isAbandoned .detached = true ∧
      (last.progress 1).isDone = true ∧
      last.site.content details = some stored ∧
      (∀ caller, (calls caller).identifiers.resolve = .ok details →
        caller ∉ Happening.writers details.slot earlier →
          (∀ site writes, .called caller site writes ∈ later → writes = []) ∧
          ∀ result, last.progress caller = .ready (.done result) → ∃ error, result = .error error) ∧
      ∀ amendment : Amendment, amendment.machine.transitions = .builtIn →
        amendment.identifiers.resolve = .ok details →
          (∃ error, (amendment.request.run Site.perform last.site).1 = .error error) ∧
            (amendment.request.run Site.perform last.site).2.catalog = last.site.catalog := by
  intro details targets calls start
  have begins : start.Begins calls := ⟨fun _ => rfl, Site.wellFiled_sample, fun _ => rfl⟩
  obtain ⟨earlier, alone, before, -⟩ := exists_runs_inTurn start rfl [0]
  obtain ⟨later, aloneStill, run⟩ := exists_runs_goOn Site.answers_perform (start.inTurn [0])
    (List.replicate 14 1)
  have undisturbed (call : StoreCall) (site : Site) (member : .outside call site ∈ earlier ++ later)
      (slot : VersionKey) : Write.documentsAt slot (call.writes site.now site.catalog) = [] := by
    have aloneAlways : (earlier ++ later).filterMap Happening.outsider? = [] := by
      rw [List.filterMap_append, alone, aloneStill]
      rfl
    exact absurd member (Happening.not_outside_of_alone aloneAlways call site)
  have detached : ((start.inTurn [0]).site.content details).map (·.state) =
      some (some .detached) := by
    decide +kernel
  obtain ⟨stored, found, entered⟩ := Option.map_eq_some_iff.mp detached
  have done : (((List.replicate 14 1).foldl goOn (start.inTurn [0])).progress 1).isDone = true := by
    decide +kernel
  exact ⟨begins, fun _ => rfl, earlier, _, later, _, stored, before, run.disturbed, undisturbed,
    found, entered, rfl, done,
    DisturbedRuns.abandoned_versions_are_frozen begins (fun _ => rfl) before run.disturbed
      undisturbed found entered rfl⟩

end System

end ReleaseCatalog
