/-
The instances of versions under many requests. The store, when a version is added to it, and the
request that publishes the version decide for themselves whether an instance stands behind it. They
agree on all versions but those that are not static and name no instance: the store makes no record
for them, and yet their publication marks one.

Requests never change what a version is named and of which type it is, and neither make records nor
take any away. So what a request has read of its version at any time is true of the version as it
stands, and a record is there at the end exactly when there was one at the beginning.
-/

import ReleaseCatalog.Proofs.Concurrency.Cascades
import ReleaseCatalog.Proofs.Concurrency.History
import ReleaseCatalog.Proofs.Store.Instances
import ReleaseCatalog.Proofs.Workflow.Marking

namespace ReleaseCatalog

variable {ι : Type}

/-! ### Versions that grow -/

/-- The records are those of the versions as long as these only grow. -/
theorem Catalog.RecordsInstances.of_slotGrows {catalog later : Catalog}
    (records : catalog.RecordsInstances) (same : catalog.SameRecords later)
    (grows : ∀ slot, ∃ updates, Version.SlotGrows updates (catalog.versions.get? slot)
      (later.versions.get? slot)) : later.RecordsInstances where
  recorded {slot version} found backed := by
    obtain ⟨updates, grown⟩ := grows slot
    rw [found] at grown
    obtain ⟨stored, stood, grown⟩ := grown.to_some
    rw [same, grown.id]
    exact records.recorded stood (grown.hasInstance.symm.trans backed)
  named := by
    rw [← Option.not_isSome_iff_eq_none, same, records.named]
    exact Bool.false_ne_true

/-! ### What a request has read and marked -/

/-- What a request that has come so far attempts next. -/
def Progress.attempts? {α : Type} : Progress α → Option Action
  | .ready (.step call _) => call.attempts?
  | _ => none

theorem Marking.talliesSuccesses_conduct (details : VersionDetails) :
    Steps.TalliesSuccesses (conduct details) where
  failed _ request _ := by cases request <;> rfl
  generated _ _ _ _ := rfl
  paused _ := rfl
  dated _ _ := rfl

namespace Amendment

/-- A request is held to what it has read of the version that its identifiers name. -/
def marking (amendment : Amendment) : Program.Conduct Call.Answer Marking where
  fine tally call := ∃ details, amendment.identifiers.resolve = .ok details ∧
    (Request.conduct (Marking.conduct details)).fine tally call
  after := (Request.conduct (Marking.conduct {})).after

theorem ignoresLocks_marking (amendment : Amendment) : Request.IgnoresLocks amendment.marking :=
  Request.ignoresLocks_conduct (Marking.conduct {})

theorem marks_request (amendment : Amendment) :
    Program.Abides amendment.marking (fun _ _ => True) amendment.request {} := by
  cases named : amendment.identifiers.resolve with
  | error error =>
    unfold request Machine.amend
    rw [named]
    trivial
  | ok details =>
    refine Program.Abides.of_fine (Machine.marks_amend named) rfl fun tally call fine => ?_
    exact ⟨details, named, fine⟩

/-- A request may attempt only what its tally allows. -/
theorem exists_allows_of_attempts {amendment : Amendment} {tally : Marking} {call : Call}
    {action : Action} (fine : amendment.marking.fine tally call)
    (attempts : call.attempts? = some action) :
    ∃ details, amendment.identifiers.resolve = .ok details ∧ tally.Allows details action := by
  obtain ⟨details, named, fine⟩ := fine
  refine ⟨details, named, ?_⟩
  cases call with
  | act | actBefore =>
    cases attempts
    exact fine
  | instant | acquire | hold | release => cases attempts

/-- A request writes only records that are there. -/
theorem isSome_of_record_mem_writes {amendment : Amendment} {tally : Marking} {call : Call}
    {site : Site} {writes : List Write} {id : String} {record : Instance}
    (fine : amendment.marking.fine tally call) (begun : writes <+: site.callWrites call)
    (member : .record id record ∈ writes) : (site.catalog.instances.get? id).isSome = true := by
  have acted {action : Action} (attempts : call.attempts? = some action)
      (member : .record id record ∈ site.writes action) :
      (site.catalog.instances.get? id).isSome = true := by
    obtain ⟨details, -, allowed⟩ := exists_allows_of_attempts fine attempts
    cases action with
    | generate | pause | now => cases member
    | store request =>
      refine Catalog.isSome_of_record_mem_writes (fun version added => ?_) member
      subst added
      exact allowed
  cases call with
  | act | actBefore => exact acted rfl (begun.subset member)
  | instant | acquire | hold | release => exact nomatch begun.subset member

/-- Everything in the tally of a request was answered to it. -/
structure Attests (amendment : Amendment) (trace : List (Happening ι)) (caller : ι)
    (tally : Marking) : Prop where
  read {version : Version} : version ∈ tally.read → ∃ details selector,
    amendment.identifiers.resolve = .ok details ∧
      Happening.Accomplished trace caller
        (.getVersion details.datasetId details.edition details.number selector) version
  marked {id : String} : id ∈ tally.marked →
    Happening.Accomplished trace caller (.publishInstance id) ()

variable {amendment : Amendment} {trace more : List (Happening ι)} {caller : ι} {tally : Marking}

theorem Attests.mono (attests : amendment.Attests trace caller tally) :
    amendment.Attests (trace ++ more) caller tally where
  read member := by
    obtain ⟨details, selector, named, done⟩ := attests.read member
    exact ⟨details, selector, named, done.mono⟩
  marked member := (attests.marked member).mono

theorem Attests.call (attests : amendment.Attests trace caller tally) {call : Call}
    {answer : call.Answer} {site after : Site} {writes : List Write}
    (fine : amendment.marking.fine tally call) (answered : site.Answers call answer after)
    (recorded : after.journal = site.journal ++ writes) :
    amendment.Attests (trace ++ [.called caller site writes]) caller
      (amendment.marking.after tally call answer) := by
  have mono : amendment.Attests (trace ++ [.called caller site writes]) caller tally := attests.mono
  unfold marking
  rcases Request.after_conduct_eq_or (Marking.talliesSuccesses_conduct {}) tally call answer with
    same | ⟨request, value, accomplishes, same⟩
  · rwa [same]
  · obtain ⟨details, named, allowed⟩ := exists_allows_of_attempts fine accomplishes.attempts
    have done : Happening.Accomplished (trace ++ [.called caller site writes]) caller request
        value := Happening.accomplished_of_answers answered recorded accomplishes
    rw [same]
    cases request with
    | getVersion datasetId edition number selector =>
      have here : (⟨datasetId, edition, number⟩ : VersionKey) = details.slot := allowed
      cases here
      refine ⟨fun member => ?_, mono.marked⟩
      rcases List.mem_cons.mp member with rfl | before
      · exact ⟨details, selector, named, done⟩
      · exact mono.read before
    | publishInstance id =>
      refine ⟨mono.read, fun member => ?_⟩
      rcases List.mem_cons.mp member with rfl | before
      · exact done
      · exact mono.marked before
    | getDataset | upsertDataset | associate | getDatasetType | getEdition | upsertEdition
    | checkEdition | addVersion | updateVersion | getInstance => exact mono

end Amendment

namespace System

/-- The trace tells of all that requests have read and marked. -/
theorem evident_attests (calls : ι → Amendment) :
    Evident (fun caller => (calls caller).marking)
      fun trace caller tally => (calls caller).Attests trace caller tally where
  mono attests := attests.mono
  call attests := attests.call

variable [DecidableEq ι] {calls : ι → Amendment} {start last : System ι (Result Version)}
  {trace : List (Happening ι)}

/-- In every run the requests go by what they have read and marked. -/
theorem DisturbedRuns.exists_markings
    (ready : ∀ caller, start.progress caller = .ready (calls caller).request)
    (run : DisturbedRuns start trace last) :
    ∃ tallies, last.Held (fun caller => (calls caller).marking) (fun _ _ _ => True) tallies ∧
      ∀ caller, (calls caller).Attests trace caller (tallies caller) := by
  have held : start.Held (fun caller => (calls caller).marking) (fun _ _ _ => True)
      fun _ => {} := by
    intro caller
    rw [ready]
    exact (calls caller).marks_request
  exact run.exists_held held (fun caller => (calls caller).ignoresLocks_marking)
    (evident_attests calls) fun _ => ⟨nofun, nofun⟩

/-! ### What no request changes -/

/-- Requests neither make records of instances nor take any away. -/
theorem DisturbedRuns.sameRecords
    (ready : ∀ caller, start.progress caller = .ready (calls caller).request)
    (run : DisturbedRuns start trace last)
    (undisturbed : ∀ call site, .outside call site ∈ trace →
      call.writes site.now site.catalog = []) :
    start.site.catalog.SameRecords last.site.catalog := by
  induction run with
  | begun => exact .refl _
  | @step trace happenings middle last run step inductionHypothesis =>
    have before := inductionHypothesis fun call site member =>
      undisturbed call site (List.mem_append_left _ member)
    obtain ⟨tallies, held, -⟩ := run.exists_markings ready
    obtain ⟨later, advance, -⟩ :=
      held.step (fun caller => (calls caller).ignoresLocks_marking) step
    rw [step.catalog]
    refine before.trans (Catalog.sameRecords_writeAll fun id record member => ?_)
    generalize last.site = after at advance
    cases advance with
    | quiet nothing => rcases nothing with rfl | ⟨caller, rfl⟩ <;> cases member
    | outside call =>
      rw [List.flatMap_singleton, Happening.writes,
        undisturbed call _ (List.mem_append_right _ List.mem_cons_self)] at member
      cases member
    | @call caller call answer writes _ fine answered recorded =>
      rw [List.flatMap_singleton] at member
      obtain ⟨made, begun, -, journal⟩ := answered.made
      cases List.append_cancel_left (recorded.symm.trans journal)
      exact Amendment.isSome_of_record_mem_writes fine begun member

/-- Whatever stands in a slot has only grown since the beginning. -/
theorem DisturbedRuns.slotGrows (begins : start.Begins calls) (run : DisturbedRuns start trace last)
    (undisturbed : ∀ call site, .outside call site ∈ trace →
      call.writes site.now site.catalog = []) (slot : VersionKey) :
    ∃ updates, Version.SlotGrows updates (start.site.catalog.versions.get? slot)
      (last.site.catalog.versions.get? slot) := by
  obtain ⟨present, bearer, ledger⟩ := DisturbedRuns.begun.exists_ledger begins
    fun call site member => absurd member List.not_mem_nil
  have apart (call : StoreCall) (site : Site) (member : .outside call site ∈ trace)
      (slot : VersionKey) : Write.documentsAt slot (call.writes site.now site.catalog) = [] := by
    rw [undisturbed call site member]
    rfl
  exact ⟨_, (ledger.revisions run (fun call site member _ => apart call site member _)
    fun call site member => apart call site member slot).slotGrows⟩

/-- What a request has read of a version is true of the version as it stands. -/
theorem DisturbedRuns.exists_content_of_read (begins : start.Begins calls)
    (run : DisturbedRuns start trace last)
    (undisturbed : ∀ call site, .outside call site ∈ trace →
      call.writes site.now site.catalog = []) {caller : ι} {details : VersionDetails}
    {selector : String} {version : Version}
    (read : Happening.Accomplished trace caller
      (.getVersion details.datasetId details.edition details.number selector) version) :
    ∃ current, last.site.content details = some current ∧ current.id = version.id ∧
      current.isStatic = version.isStatic := by
  obtain ⟨site, member, answered⟩ := read
  obtain ⟨found, -⟩ := Catalog.getVersion_eq_ok_iff.mp answered
  obtain ⟨earlier, more, middle, rfl, front, rfl⟩ := run.exists_before member
  obtain ⟨_, grown⟩ := front.slotGrows begins
    (fun call site member => undisturbed call site (List.mem_append_left _ member)) details.slot
  obtain ⟨stored, stood, atReading⟩ := (found ▸ grown).to_some
  obtain ⟨_, grown⟩ := run.slotGrows begins undisturbed details.slot
  obtain ⟨current, stands, sinceThen⟩ := (stood ▸ grown).of_some
  exact ⟨current, stands, sinceThen.id.trans atReading.id.symm,
    sinceThen.isStatic.trans atReading.isStatic.symm⟩

/-- The record of an instance that was marked is there, and says that it is published. -/
theorem DisturbedRuns.exists_record_of_marked
    (ready : ∀ caller, start.progress caller = .ready (calls caller).request)
    (run : DisturbedRuns start trace last)
    (undisturbed : ∀ call site, .outside call site ∈ trace →
      call.writes site.now site.catalog = []) {caller : ι} {id : String}
    (marked : Happening.Accomplished trace caller (.publishInstance id) ()) :
    (last.site.catalog.instances.get? id).isSome = true ∧
      ∃ site record, .called caller site [.record id record] ∈ trace ∧
        record.isPublished = true ∧ record.state = some .published := by
  obtain ⟨site, member, answered⟩ := marked
  change (site.catalog.publishInstance id).1 = .ok () at answered
  rw [Catalog.publishInstance_fst] at answered
  cases found : site.catalog.instances.get? id with
  | none => simp [found] at answered
  | some record =>
    simp only [StoreCall.writes, Catalog.publishWrites, found] at member
    refine ⟨?_, site, _, member, rfl, rfl⟩
    obtain ⟨earlier, more, middle, rfl, front, rfl⟩ := run.exists_before member
    have before := front.sameRecords ready fun call site member =>
      undisturbed call site (List.mem_append_left _ member)
    rw [run.sameRecords ready undisturbed, ← before, found]
    rfl

/-- What a request knows at the end of a run, by its tally: what it may attempt next, how its
version stands of which it has read, and that the records of the instances are there which it has
marked. -/
theorem DisturbedRuns.exists_marking (begins : start.Begins calls)
    (run : DisturbedRuns start trace last)
    (undisturbed : ∀ call site, .outside call site ∈ trace →
      call.writes site.now site.catalog = []) (caller : ι) :
    ∃ tally : Marking,
      (∀ action, (last.progress caller).attempts? = some action →
        ∃ details, (calls caller).identifiers.resolve = .ok details ∧
          tally.Allows details action) ∧
      (∀ details, (calls caller).identifiers.resolve = .ok details → ∀ version ∈ tally.read,
        ∃ current, last.site.content details = some current ∧ current.id = version.id ∧
          current.isStatic = version.isStatic) ∧
      ∀ id ∈ tally.marked, (last.site.catalog.instances.get? id).isSome = true ∧
        ∃ site record, .called caller site [.record id record] ∈ trace ∧
          record.isPublished = true ∧ record.state = some .published := by
  obtain ⟨tallies, held, attests⟩ := run.exists_markings begins.asked
  refine ⟨tallies caller, fun action attempts => ?_, fun details named version read => ?_,
    fun id marked => ?_⟩
  · have abides := held caller
    unfold Progress.attempts? at attempts
    split at attempts
    · next here =>
      rw [here] at abides
      exact Amendment.exists_allows_of_attempts abides.1 attempts
    · cases attempts
  · obtain ⟨other, selector, resolved, done⟩ := (attests caller).read read
    cases named.symm.trans resolved
    exact run.exists_content_of_read begins undisturbed done
  · exact run.exists_record_of_marked begins.asked undisturbed ((attests caller).marked marked)

/-- Instances are marked before datasets are promoted, and marking one fails exactly for versions
that are not static and name none. Any number of requests, with whichever handlers, run at one
disturbed site, with their calls interleaved in any way; its catalog was set up by adding versions
and putting datasets and editions, and nobody else writes to it. Whenever a request is about to mark
an instance, it is the one that the version names as it stands, which is not static, and the store
has a record of it exactly when it has an instance. Whenever a request is about to promote a
dataset, its version is static, or it has an instance and the request has marked it. -/
theorem DisturbedRuns.instances_are_marked_first (begins : start.Begins calls)
    (setUp : start.site.catalog.IsSetUp) (run : DisturbedRuns start trace last)
    (undisturbed : ∀ call site, .outside call site ∈ trace →
      call.writes site.now site.catalog = []) (caller : ι) :
    (∀ id, (last.progress caller).attempts? = some (.store (.publishInstance id)) →
      ∃ details version, (calls caller).identifiers.resolve = .ok details ∧
        last.site.content details = some version ∧ version.id = id ∧ version.isStatic = false ∧
        (last.site.catalog.publishInstance id).1 =
          if version.hasInstance then .ok () else .error .instanceNotFound) ∧
    ∀ id document, (last.progress caller).attempts? = some (.store (.upsertDataset id document)) →
      ∃ details version, (calls caller).identifiers.resolve = .ok details ∧
        last.site.content details = some version ∧
        (version.isStatic = true ∨ version.hasInstance = true ∧ ∃ site record,
          .called caller site [.record version.id record] ∈ trace ∧
            record.isPublished = true ∧ record.state = some .published) := by
  obtain ⟨tally, allows, stands, marked⟩ := run.exists_marking begins undisturbed caller
  have records : last.site.catalog.RecordsInstances :=
    setUp.recordsInstances.of_slotGrows (run.sameRecords begins.asked undisturbed)
      (run.slotGrows begins undisturbed)
  constructor
  · intro id attempts
    obtain ⟨details, named, ⟨first, readFirst, imported⟩, base, readBase, rfl⟩ :=
      allows _ attempts
    obtain ⟨current, found, -, static⟩ := stands details named first readFirst
    obtain ⟨same, again, own, -⟩ := stands details named base readBase
    cases found.symm.trans again
    refine ⟨details, current, named, found, own, static.trans imported, ?_⟩
    rw [Catalog.publishInstance_fst, ← own, records.isSome_eq found (static.trans imported)]
  · intro id document attempts
    obtain ⟨details, named, version, read, settled⟩ := allows _ attempts
    obtain ⟨current, found, own, static⟩ := stands details named version read
    refine ⟨details, current, named, found, ?_⟩
    cases imported : current.isStatic with
    | true => exact .inl rfl
    | false =>
      have isMarked := settled.resolve_left fun isStatic =>
        Bool.noConfusion (imported.symm.trans (static.trans isStatic))
      obtain ⟨there, told⟩ := marked version.id isMarked
      rw [← own] at there told
      exact .inr ⟨(records.isSome_eq found imported).symm.trans there, told⟩

end System

/-! ### A sample that is set up -/

/-- A catalog that is set up with one version in a collection, which names this instance. -/
def Catalog.sampleSetUp (id : String) : Catalog :=
  let calls : List StoreCall := [
    .upsertDataset "cpih01" { next := some { id := "cpih01", type := "filterable" } },
    .upsertEdition "cpih01" "time-series" { id := "time-series" },
    .addVersion {
      id := id, datasetId := "cpih01", edition := "time-series", number := 1
      type := "filterable", state := some .associated, releaseDate := "2024-01-17"
      links := some { version := some ⟨"1", "/versions/1"⟩ } }]
  calls.foldl (fun catalog call => (catalog.perform .sample call).2) {}

theorem Catalog.isSetUp_sampleSetUp (id : String) : (sampleSetUp id).IsSetUp :=
  IsSetUp.empty.foldl .sample (by simp [StoreCall.SetsUp])

/-- A request at this catalog that has not begun. -/
def System.sampleSetUp (id : String) : System Unit (Result Version) :=
  ⟨{ catalog := .sampleSetUp id }, fun _ => .ready (Amendment.sample "1" .published).request⟩

/-- The instance that an action marks. -/
def Action.marks? : Action → Option String
  | .store (.publishInstance id) => some id
  | _ => none

/-- The dataset that an action puts. -/
def Action.puts? : Action → Option (String × Dataset)
  | .store (.upsertDataset id document) => some (id, document)
  | _ => none

theorem Action.eq_of_marks? {action : Action} {id : String} (marks : action.marks? = some id) :
    action = .store (.publishInstance id) := by
  unfold marks? at marks
  split at marks <;> cases marks
  rfl

theorem Action.eq_of_puts? {action : Action} {id : String} {document : Dataset}
    (puts : action.puts? = some (id, document)) : action = .store (.upsertDataset id document) := by
  unfold puts? at puts
  split at puts <;> cases puts
  rfl

namespace System.DisturbedRuns

/-- The version of the sample names an instance, and its publication is followed up to where the
instance is marked, and on to where the dataset is promoted. -/
theorem instances_are_marked_first_sample :
    let details : VersionDetails := ⟨"cpih01", "time-series", 1⟩
    let calls (_ : Unit) := Amendment.sample "1" .published
    let start := System.sampleSetUp "import-1"
    start.Begins calls ∧ start.site.catalog.IsSetUp ∧
    ∃ earlier middle trace last id dataset document,
      System.DisturbedRuns start earlier middle ∧ System.DisturbedRuns start trace last ∧
      (∀ call site, .outside call site ∈ earlier ++ trace →
        call.writes site.now site.catalog = []) ∧
      (middle.progress ()).attempts? = some (.store (.publishInstance id)) ∧
      (last.progress ()).attempts? = some (.store (.upsertDataset dataset document)) ∧
      (∃ version, middle.site.content details = some version ∧ version.id = id ∧
        version.isStatic = false ∧ (middle.site.catalog.publishInstance id).1 =
          if version.hasInstance then .ok () else .error .instanceNotFound) ∧
      ∃ version, last.site.content details = some version ∧
        (version.isStatic = true ∨ version.hasInstance = true ∧ ∃ site record,
          .called () site [.record version.id record] ∈ trace ∧
            record.isPublished = true ∧ record.state = some .published) := by
  intro details calls start
  have setUp : start.site.catalog.IsSetUp := Catalog.isSetUp_sampleSetUp "import-1"
  have begins : start.Begins calls := ⟨fun _ => rfl, setUp.wellFiled, fun _ => rfl⟩
  have named : (calls ()).identifiers.resolve = .ok details := by cbv
  obtain ⟨earlier, aloneBefore, before⟩ :=
    System.exists_runs_goOn Site.answers_perform start (List.replicate 9 ())
  obtain ⟨trace, alone, run⟩ :=
    System.exists_runs_goOn Site.answers_perform start (List.replicate 12 ())
  have undisturbed (call : StoreCall) (site : Site)
      (member : .outside call site ∈ earlier ++ trace) :
      call.writes site.now site.catalog = [] := by
    refine absurd member (Happening.not_outside_of_alone ?_ call site)
    rw [List.filterMap_append, aloneBefore, alone]
    rfl
  have marks : (((List.replicate 9 ()).foldl System.goOn start).progress ()).attempts?.bind
      Action.marks? = some "import-1" := by
    decide +kernel
  have puts : ((((List.replicate 12 ()).foldl System.goOn start).progress ()).attempts?.bind
      Action.puts?).isSome = true := by
    decide +kernel
  obtain ⟨⟨dataset, document⟩, puts⟩ := Option.isSome_iff_exists.mp puts
  obtain ⟨_, marksNext, marks⟩ := Option.bind_eq_some_iff.mp marks
  obtain ⟨_, putsNext, puts⟩ := Option.bind_eq_some_iff.mp puts
  rw [Action.eq_of_marks? marks] at marksNext
  rw [Action.eq_of_puts? puts] at putsNext
  obtain ⟨_, version, resolved, marked⟩ :=
    (System.DisturbedRuns.instances_are_marked_first begins setUp before.disturbed
      (fun call site member => undisturbed call site (List.mem_append_left _ member)) ()).1
      "import-1" marksNext
  cases named.symm.trans resolved
  obtain ⟨_, current, again, promoted⟩ :=
    (System.DisturbedRuns.instances_are_marked_first begins setUp run.disturbed
      (fun call site member => undisturbed call site (List.mem_append_right _ member)) ()).2
      dataset document putsNext
  cases named.symm.trans again
  exact ⟨begins, setUp, earlier, _, trace, _, "import-1", dataset, document, before.disturbed,
    run.disturbed, undisturbed, marksNext, putsNext, ⟨version, marked⟩, current, promoted⟩

/-- The version of the sample names no instance. Its publication fails when it is stored as
published and its edition is promoted, and before its dataset is. -/
theorem unnamed_instances_are_missing :
    let details : VersionDetails := ⟨"cpih01", "time-series", 1⟩
    let start := System.sampleSetUp ""
    let ended := (Amendment.sample "1" .published).request.run Site.perform start.site
    start.site.catalog.IsSetUp ∧ ended.1 = .error .instanceNotFound ∧
      (ended.2.content details).bind (·.state) = some .published ∧
      (ended.2.content details).map (·.hasInstance) = some false ∧
      ended.2.catalog.datasets.get? "cpih01" = start.site.catalog.datasets.get? "cpih01" := by
  intro details start ended
  exact ⟨Catalog.isSetUp_sampleSetUp "", by decide +kernel, by decide +kernel, by decide +kernel,
    by decide +kernel⟩

end System.DisturbedRuns

end ReleaseCatalog
