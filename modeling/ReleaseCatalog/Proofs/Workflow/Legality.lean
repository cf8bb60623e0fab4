/-
Every version that a request writes is valid, and the rules allow the move to it. When the first
attempt to write has lost a race the candidate is made anew, of another document; what was checked
of the first candidate says nothing of the second. So the checks are kept together with the document
that they were made for: the tally here is the version that was read last, and a version may be
written only as the checked merge of the update into that one.

Others may do to the catalog whatever they like meanwhile, and a caller who admits every document
may replace another one than the one that was read. What is said of the candidate is said of the
document that it was merged from; only the stamp depends on the document that it replaces.
-/

import ReleaseCatalog.Proofs.Program.Conduct
import ReleaseCatalog.Proofs.Workflow.Dispatch
import ReleaseCatalog.Proofs.Workflow.Lifecycle

namespace ReleaseCatalog

open Program (Abides Conduct Event Runs)

/-! ### The version that was read last -/

/-- The version was read from the slot by the selector, as it was stored there then, and no version
was read after it. -/
def Request.LastRead (events : List (Event Call.Answer Site)) (slot : VersionKey)
    (selector : String) (document : Version) : Prop :=
  ∃ front event back, events = front ++ event :: back ∧
    event.call.Accomplishes event.answer
      (.getVersion slot.datasetId slot.edition slot.number selector) document ∧
    event.before.catalog.getVersion slot selector = .ok document ∧ reads back = []

section Legality

variable {α : Type} {table : TransitionTable} {details : VersionDetails} {update : Version}
  {selector : String}

/-- A version is read only from the slot and by the selector of a request, and written only as the
checked merge of its update into the version that was read last. -/
def Action.IsLegal (table : TransitionTable) (details : VersionDetails) (update : Version)
    (selector : String) (last : Option Version) : Action → Prop
  | .store (.getVersion datasetId edition number eTag) =>
    (⟨datasetId, edition, number⟩ : VersionKey) = details.slot ∧ eTag = selector
  | .store (.updateVersion _ current candidate _) =>
    last = some current ∧ candidate = Version.combine current update ∧
      TransitionContext.checkMove table current candidate = .ok ()
  | .store (.addVersion _) => False
  | _ => True

/-- The conduct of legal steps: the version that was read last is kept. -/
def Steps.legality (table : TransitionTable) (details : VersionDetails) (update : Version)
    (selector : String) : Conduct Action.Answer (Option Version) where
  fine := Action.IsLegal table details update selector
  after
    | _, .store (.getVersion _ _ _ _), .ok document => some document
    | last, _, _ => last

/-- The conduct of a request whose steps are legal. -/
abbrev Request.legality (table : TransitionTable) (details : VersionDetails) (update : Version)
    (selector : String) : Conduct Call.Answer (Option Version) :=
  Request.conduct (Steps.legality table details update selector)

/-- The tally of a request is the version that its calls have read last. -/
theorem Request.after_legality (last : Option Version) (call : Call) (answer : call.Answer) :
    (Request.legality table details update selector).after last call answer =
      (call.read? answer).or last := by
  have acted (action : Action) (answer : action.Answer) :
      (Steps.legality table details update selector).after last action answer =
        (Call.read? (.act action) answer).or last := by
    cases action with
    | generate | pause | now => rfl
    | store request => cases request <;> rcases answer with error | value <;> rfl
  cases call with
  | act action => exact acted action answer
  | actBefore expiry action =>
    cases answer with
    | none =>
      cases action with
      | generate | pause | now => rfl
      | store request => cases request <;> rfl
    | some answer =>
      refine (acted action answer).trans (congrArg (Option.or · last) ?_)
      cases action with
      | generate | pause | now => rfl
      | store request => cases request <;> rcases answer with error | value <;> rfl
  | instant | acquire | hold | release => rfl

/-- Whoever has read a version has read it from some slot by some selector. -/
theorem Call.exists_accomplishes_of_read {call : Call} {answer : call.Answer} {document : Version}
    (read : call.read? answer = some document) :
    ∃ datasetId edition number eTag,
      call.Accomplishes answer (.getVersion datasetId edition number eTag) document := by
  unfold read? at read
  split at read
  · cases read
    exact ⟨_, _, _, _, .act _ _⟩
  · cases read
    exact ⟨_, _, _, _, .inTime _ _ _⟩
  · cases read

/-- A version in the tally was read by some call, and none after that has read another one. -/
theorem Request.exists_read_of_tallied {events : List (Event Call.Answer Site)}
    {document : Version}
    (last : (Request.legality table details update selector).tallied none events = some document) :
    ∃ front event back, events = front ++ event :: back ∧
      event.call.read? event.answer = some document ∧ reads back = [] := by
  induction events using List.reverseRecOn with
  | nil => cases last
  | append_singleton events event inductionHypothesis =>
    unfold Conduct.tallied at last inductionHypothesis
    rw [List.foldl_append, List.foldl_cons, List.foldl_nil, after_legality] at last
    cases read : event.call.read? event.answer with
    | some found =>
      rw [read] at last
      cases last
      exact ⟨events, event, [], rfl, read, rfl⟩
    | none =>
      rw [read] at last
      obtain ⟨front, earlier, back, rfl, found, nothing⟩ := inductionHypothesis last
      refine ⟨front, earlier, back ++ [event], ?_, found, ?_⟩
      · rw [List.append_assoc, List.cons_append]
      · unfold reads at nothing ⊢
        simp [nothing, read]

/-! ### Steps are legal -/

namespace TransitionContext

variable {context : TransitionContext} {last : Option Version}

/-- A checked merge into the version that was read last may be written. -/
theorem legal_write (path : WritePath) {current : Version}
    (passed : checkMove context.transitions current
      (Version.combine current context.update) = .ok ()) :
    Abides (Steps.legality context.transitions context.details context.update context.ifMatch)
      (fun _ later => later = some current)
      (context.write path current (Version.combine current context.update)) (some current) := by
  refine ⟨⟨rfl, rfl, passed⟩, fun answer => ?_⟩
  rcases answer with error | tag <;> rfl

/-- Whatever was read before, the version that is read again is merged and checked anew. -/
theorem legal_refresh :
    context.refresh.Warrants
      (Steps.legality context.transitions context.details context.update context.ifMatch)
      (fun pair later => later = some pair.1 ∧
        pair.2 = Version.combine pair.1 context.update ∧
        checkMove context.transitions pair.1 pair.2 = .ok ()) last := by
  have reads : (Steps.store (.getVersion context.details.datasetId context.details.edition
      context.details.number context.ifMatch)).Warrants
      (Steps.legality context.transitions context.details context.update context.ifMatch)
      (fun current later => later = some current) last :=
    Steps.warrants_store ⟨rfl, rfl⟩ fun current => rfl
  refine Steps.warrants_andThen reads ?_
  rintro current _ rfl
  exact Steps.warrants_require fun _ passed => Steps.warrants_ok ⟨rfl, rfl, passed⟩

/-- Both attempts to write the candidate are legal. -/
theorem legal_persist (path : WritePath)
    (merged : context.candidate = Version.combine context.current context.update)
    (passed : checkMove context.transitions context.current context.candidate = .ok ()) :
    (context.persist path).Warrants
      (Steps.legality context.transitions context.details context.update context.ifMatch)
      (fun _ _ => True) (some context.current) := by
  rw [merged] at passed
  refine warrants_persist_of ?_ trivial rfl legal_refresh ?_
  · rw [merged]
    exact (legal_write path passed).mono fun _ _ same => ⟨fun _ _ => trivial, fun _ _ => same⟩
  · rintro ⟨current, candidate⟩ _ ⟨rfl, remerged, passed⟩
    dsimp only at remerged passed ⊢
    subst remerged
    exact (legal_write path passed).mono fun _ _ _ _ _ => trivial

end TransitionContext

/-- What is done for the parents is legal at any time. -/
theorem Action.IsForParents.isLegal {action : Action} (parents : action.IsForParents)
    (last : Option Version) : action.IsLegal table details update selector last := by
  cases action with
  | store call => cases call <;> first | exact trivial | cases parents
  | generate | pause | now => exact trivial

/-- The steps under the lock are legal, with whichever handlers and rules. -/
theorem Machine.legal_locked {machine : Machine} {options : AmendOptions} :
    (machine.locked details update options).Warrants
      (Steps.legality machine.transitions details update options.ifMatch) (fun _ _ => True)
      none := by
  have unread {call : StoreCall} (fine : Action.IsLegal machine.transitions details update
      options.ifMatch none (.store call)) :
      (Steps.store call).Warrants
        (Steps.legality machine.transitions details update options.ifMatch)
        (fun _ _ => True) none :=
    Steps.warrants_store fine fun _ => trivial
  refine Steps.warrants_andThen (unread trivial) fun dataset later _ => ?_
  have checks : (Steps.store (.checkEdition details.datasetId details.edition none)).Warrants
      (Steps.legality machine.transitions details update options.ifMatch) (fun _ _ => True)
      later := Steps.warrants_store trivial fun _ => trivial
  refine Steps.warrants_andThen checks fun _ later _ => ?_
  have finds : (Steps.store
      (.getVersion details.datasetId details.edition details.number options.ifMatch)).Warrants
      (Steps.legality machine.transitions details update options.ifMatch)
      (fun current later => later = some current) later :=
    Steps.warrants_store ⟨rfl, rfl⟩ fun current => rfl
  refine Steps.warrants_andThen finds ?_
  rintro current _ rfl
  refine Steps.warrants_require fun _ passed => ?_
  obtain ⟨valid, target, type, state, -⟩ := TransitionContext.checkMove_eq_ok_iff.mp passed
  simp only [state]
  rw [Handler.steps_eq _ _ valid]
  let context := machine.context details update options dataset current
  refine Steps.warrants_require fun type _ =>
    Steps.warrants_andThen (context.legal_persist _ rfl passed) fun persisted later _ => ?_
  exact ((Handler.forParents_afterwards context _ type persisted).abides
    fun last action parents => parents.isLegal last).mono fun _ _ _ _ _ => trivial

/-- A request for a version is legal, with whichever handlers and rules. -/
theorem Machine.legal_amend {machine : Machine} {identifiers : VersionIdentifiers}
    {options : AmendOptions} (named : identifiers.resolve = .ok details) :
    Abides (Request.legality machine.transitions details update options.ifMatch) (fun _ _ => True)
      (machine.amend identifiers update options) none := by
  unfold amend
  simp only [named]
  by_cases unknown : update.type ≠ "" ∧ DatasetType.resolve? update.type = none
  · rw [if_pos unknown]
    trivial
  · rw [if_neg unknown]
    refine (Request.abides_amendVersion trivial (fun answer => ?_) legal_locked).mono
      fun _ _ _ => trivial
    cases answer <;> rfl

end Legality

/-! ### Runs among others -/

/-- A legal call writes a version over the stored one as the checked merge of the update into the
version that was read last. -/
theorem Site.of_version_mem_callWrites_of_legal {table : TransitionTable}
    {details : VersionDetails} {update document : Version} {selector : String}
    {last : Option Version} {site : Site} {call : Call} {slot : VersionKey}
    (legal : (Request.legality table details update selector).fine last call)
    (member : Write.version slot document ∈ site.callWrites call) :
    ∃ base stored, last = some base ∧ slot = base.key ∧
      site.catalog.versions.get? slot = some stored ∧
      document = Version.stamp site.now stored (Version.combine base update) ∧
      TransitionContext.checkMove table base (Version.combine base update) = .ok () := by
  have acted {action : Action} (legal : action.IsLegal table details update selector last)
      (member : Write.version slot document ∈ site.writes action) :
      ∃ base stored, last = some base ∧ slot = base.key ∧
        site.catalog.versions.get? slot = some stored ∧
        document = Version.stamp site.now stored (Version.combine base update) ∧
        TransitionContext.checkMove table base (Version.combine base update) = .ok () := by
    cases action with
    | generate | pause | now => cases member
    | store request =>
      rcases Catalog.version_mem_writes member with
        ⟨version, rfl⟩ | ⟨path, base, _, eTag, stored, rfl, rfl, found, -, rfl⟩
      · exact legal.elim
      · obtain ⟨read, rfl, passed⟩ := legal
        exact ⟨base, stored, read, rfl, found, rfl, passed⟩
  cases call with
  | act action => exact acted legal member
  | actBefore expiry action => exact acted legal member
  | instant | acquire | hold | release => cases member

namespace Machine

variable {machine : Machine} {identifiers : VersionIdentifiers} {update : Version}
  {options : AmendOptions} {site last : Site} {events earlier later : List (Event Call.Answer Site)}
  {event : Event Call.Answer Site} {outcome : Option (Result Version)}

/-- The version that a legal request has in its tally it has read last from its slot. -/
theorem lastRead_of_tallied {details : VersionDetails} {base : Version}
    (run : Runs Request.interfered (machine.amend identifiers update options) site events outcome
      last) (split : events = earlier ++ event :: later)
    (legal : ∀ front read back, events = front ++ read :: back →
      (Request.legality machine.transitions details update options.ifMatch).fine
        ((Request.legality machine.transitions details update options.ifMatch).tallied none front)
        read.call)
    (tallied : (Request.legality machine.transitions details update options.ifMatch).tallied none
      earlier = some base) :
    Request.LastRead earlier details.slot options.ifMatch base := by
  obtain ⟨front, read, back, rfl, found, nothing⟩ := Request.exists_read_of_tallied tallied
  obtain ⟨datasetId, edition, number, eTag, accomplishes⟩ :=
    Call.exists_accomplishes_of_read found
  have whole : events = front ++ read :: (back ++ event :: later) := by
    rw [split, List.append_assoc, List.cons_append]
  obtain ⟨own, rfl⟩ : (⟨datasetId, edition, number⟩ : VersionKey) = details.slot ∧
      eTag = options.ifMatch := by
    have fine := legal front read _ whole
    generalize read.call = call, read.answer = answer at fine accomplishes
    cases accomplishes <;> exact fine
  cases own
  have answered := run.answers_of_mem (whole ▸ List.mem_append_right _ List.mem_cons_self)
  exact ⟨front, read, back, rfl, accomplishes, (answered.performed accomplishes).1, nothing⟩

/-- Every version that a request writes, at the first attempt or at the second, is valid and legal.
Others may do to the catalog whatever they like between any two calls of the request, and every call
may fail. The document is the stamp, over the one that it replaces, of the merge of the update into
the version that the request has read last from that slot by the caller's selector; that merge is
valid, the rules allow the move to it, and when it is published it belongs to no collection. -/
theorem amend_writes_legal_moves (filed : site.catalog.WellFiled)
    (run : Runs Request.interfered (machine.amend identifiers update options) site events outcome
      last) (split : events = earlier ++ event :: later) {slot : VersionKey} {document : Version}
    (written : Write.version slot document ∈ Site.written event) :
    ∃ details base stored, identifiers.resolve = .ok details ∧ slot = details.slot ∧
      event.before.catalog.versions.get? slot = some stored ∧
      Request.LastRead earlier slot options.ifMatch base ∧
      document = Version.stamp event.before.now stored (Version.combine base update) ∧
      (Version.combine base update).validate = .ok () ∧
      machine.transitions.AllowsMove base (Version.combine base update) ∧
      (document.state = some .published → document.collectionId = "") := by
  have member : event ∈ events := split ▸ List.mem_append_right _ List.mem_cons_self
  cases named : identifiers.resolve with
  | error error =>
    obtain ⟨noCalls, -⟩ := run.upholds (upholds_of_unresolved named) fun _ _ => trivial
    exact (noCalls event member).elim
  | ok details =>
    obtain ⟨legal, -⟩ := run.abides (legal_amend named)
    obtain ⟨writes, begun, -, journal⟩ := (run.answers_of_mem member).made
    have planned : Write.version slot document ∈ event.before.callWrites event.call := by
      rw [Site.written, journal, List.drop_left] at written
      exact begun.subset written
    obtain ⟨base, stored, tallied, rfl, found, same, passed⟩ :=
      Site.of_version_mem_callWrites_of_legal (legal _ _ _ split) planned
    have lastRead := lastRead_of_tallied run split legal tallied
    have own : base.key = details.slot := by
      obtain ⟨front, read, back, whole, -, answered, -⟩ := lastRead
      have there : read ∈ events := by simp [split, whole]
      exact Request.wellFiled_before filed run read there _ _
        (Catalog.getVersion_eq_ok_iff.mp answered).1
    obtain ⟨valid, -⟩ := TransitionContext.checkMove_eq_ok_iff.mp passed
    refine ⟨details, base, stored, rfl, own, found, own ▸ lastRead, same, valid,
      TransitionTable.allowsMove_of_checkMove passed, fun published => ?_⟩
    subst same
    exact Version.combine_collectionId_of_published base update published

/-- The version of the sample is published by somebody else while it is amended by an update that
gives no state, and the first attempt to write it meets a conflict. The second one writes the merge
of the update into the version that was read again. -/
theorem amend_writes_legal_moves_sample :
    let machine : Machine := {}
    let identifiers : VersionIdentifiers := ⟨"cpih01", "time-series", "1"⟩
    let slot : VersionKey := ⟨"cpih01", "time-series", 1⟩
    let options : AmendOptions := { hasDownloads := true }
    let request := machine.amend identifiers {} options
    let events := request.eventsAmong Site.publishedBefore Site.performRacing Site.sample
    Site.sample.catalog.WellFiled ∧ ∃ outcome last, Runs Request.interfered request Site.sample
      events outcome last ∧ ∃ earlier event later document, events = earlier ++ event :: later ∧
        (Request.reads earlier).length = 2 ∧
        Write.version slot document ∈ Site.written event ∧
        ∃ details base stored, identifiers.resolve = .ok details ∧ slot = details.slot ∧
          event.before.catalog.versions.get? slot = some stored ∧
          Request.LastRead earlier slot options.ifMatch base ∧
          document = Version.stamp event.before.now stored (Version.combine base {}) ∧
          (Version.combine base {}).validate = .ok () ∧
          machine.transitions.AllowsMove base (Version.combine base {}) ∧
          (document.state = some .published → document.collectionId = "") := by
  intro machine identifiers slot options request events
  have run := Program.runs_eventsAmong Request.interfered Site.publishedBefore Site.performRacing
    Site.answers_performRacing Site.publishedBefore_eq_or request Site.sample
  have ninth : ((events.drop 8).head?.map fun event =>
      (Write.documentsAt slot (Site.written event)).length) = some 1 := by decide +kernel
  obtain ⟨event, here, once⟩ := Option.map_eq_some_iff.mp ninth
  obtain ⟨later, tail⟩ := List.head?_eq_some_iff.mp here
  have split : events = events.take 8 ++ event :: later := by rw [← tail, List.take_append_drop]
  obtain ⟨document, only⟩ := List.length_eq_one_iff.mp once
  have written : Write.version slot document ∈ Site.written event :=
    Write.mem_documentsAt_iff.mp (only ▸ List.mem_singleton_self _)
  exact ⟨Site.wellFiled_sample, _, _, run, _, _, _, document, split, by decide +kernel, written,
    amend_writes_legal_moves Site.wellFiled_sample run split written⟩

end Machine

end ReleaseCatalog
