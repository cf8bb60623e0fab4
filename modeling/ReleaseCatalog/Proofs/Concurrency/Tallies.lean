/-
The tallies of many requests. Each request at a disturbed site goes by its own tally, and everything
in a tally was answered by the site at some time before, as the trace tells. So whatever happens
next is one of three things: nothing is written; or a request makes a call that its tally allows; or
somebody else calls the store.
-/

import ReleaseCatalog.Proofs.Concurrency.Conducts
import ReleaseCatalog.Proofs.Workflow.Tally

namespace ReleaseCatalog

open Function (update)
open Program (Abides Conduct)

variable {ι : Type}

/-! ### What a request has been answered -/

/-- The tally after a call of a request was answered. -/
def Tally.afterCall (tally : Tally) (call : Call) (answer : call.Answer) : Tally :=
  (Request.conduct (Tally.conduct {} {})).after tally call answer

/-- Only calls on the store that were carried out are in the tally. -/
theorem Tally.afterCall_eq_or (tally : Tally) (call : Call) (answer : call.Answer) :
    tally.afterCall call answer = tally ∨ ∃ request value,
      call.Accomplishes answer request value ∧
        tally.afterCall call answer =
          tally.after (.store request) (.ok value : request.Answer) := by
  refine Request.after_conduct_eq_or ⟨fun _ request _ => ?_, fun _ _ _ _ => rfl, fun _ => rfl,
    fun _ _ => rfl⟩ tally call answer
  cases request <;> rfl

namespace Amendment

/-- A request is held to the tally of the version that its identifiers name. -/
def conduct (amendment : Amendment) : Conduct Call.Answer Tally where
  fine tally call := ∃ details, amendment.identifiers.resolve = .ok details ∧
    (Request.conduct (Tally.conduct details amendment.update)).fine tally call
  after := Tally.afterCall

/-- What a request has made the store do it was allowed to by its tally. -/
theorem exists_allows {amendment : Amendment} {tally : Tally} {call : Call} {answer : call.Answer}
    {request : StoreCall} {value : request.Value} (fine : amendment.conduct.fine tally call)
    (accomplishes : call.Accomplishes answer request value) :
    ∃ details, amendment.identifiers.resolve = .ok details ∧
      tally.Allows details amendment.update (.store request) := by
  obtain ⟨details, named, fine⟩ := fine
  refine ⟨details, named, ?_⟩
  cases accomplishes <;> exact fine

/-- A tally keeps the version that was written, since no other one is written after it. -/
theorem persisted_afterCall {amendment : Amendment} {tally : Tally} {call : Call}
    {version : Version} (fine : amendment.conduct.fine tally call)
    (written : tally.persisted = some version) (answer : call.Answer) :
    (tally.afterCall call answer).persisted = some version := by
  rcases tally.afterCall_eq_or call answer with same | ⟨request, value, accomplishes, same⟩
  · rwa [same]
  · obtain ⟨details, -, allowed⟩ := exists_allows fine accomplishes
    rw [same]
    cases request with
    | updateVersion =>
      have fresh : tally.persisted = none := allowed
      rw [fresh] at written
      cases written
    | getDataset | getVersion | upsertEdition | upsertDataset | associate | getDatasetType
    | getEdition | checkEdition | addVersion | getInstance | publishInstance => exact written

/-- What a request with a tally ends with. -/
def Ends (amendment : Amendment) (result : Result Version) (tally : Tally) : Prop :=
  ∀ version, result = .ok version → tally.Completes amendment.update version

/-- A request with the built-in handlers begins with an empty tally. -/
theorem abides_request {amendment : Amendment} (standard : amendment.machine.handlers = {}) :
    Abides amendment.conduct amendment.Ends amendment.request {} := by
  cases named : amendment.identifiers.resolve with
  | error error =>
    unfold request Machine.amend
    rw [named]
    exact fun _ => nofun
  | ok details =>
    refine Abides.of_fine (Machine.abides_amend standard named) rfl fun tally call fine => ?_
    exact ⟨details, named, fine⟩

/-- Everything in the tally of a request was answered to it. -/
structure Evidence (amendment : Amendment) (trace : List (Happening ι)) (caller : ι)
    (tally : Tally) : Prop where
  dataset {document : Dataset} : tally.dataset = some document →
    ∃ details, amendment.identifiers.resolve = .ok details ∧
      Happening.Accomplished trace caller (.getDataset details.datasetId) document
  chosen {stored : Version} : tally.chosen = some stored →
    ∃ details selector, amendment.identifiers.resolve = .ok details ∧
      Happening.Accomplished trace caller
        (.getVersion details.datasetId details.edition details.number selector) stored
  persisted {version : Version} : tally.persisted = some version →
    ∃ path current candidate selector tag,
      Happening.Accomplished trace caller (.updateVersion path current candidate selector) tag ∧
        version = { candidate with eTag := tag }
  editionDone : tally.editionDone = true →
    ∃ details document, amendment.identifiers.resolve = .ok details ∧
      Happening.Accomplished trace caller
        (.upsertEdition details.datasetId details.edition document) ()
  datasetDone : tally.datasetDone = true →
    ∃ details document, amendment.identifiers.resolve = .ok details ∧
      Happening.Accomplished trace caller (.upsertDataset details.datasetId document) ()

variable {amendment : Amendment} {trace more : List (Happening ι)} {caller : ι} {tally : Tally}

theorem evidence_empty : amendment.Evidence trace caller {} where
  dataset := nofun
  chosen := nofun
  persisted := nofun
  editionDone := nofun
  datasetDone := nofun

theorem Evidence.mono (evidence : amendment.Evidence trace caller tally) :
    amendment.Evidence (trace ++ more) caller tally where
  dataset read := by
    obtain ⟨details, named, done⟩ := evidence.dataset read
    exact ⟨details, named, done.mono⟩
  chosen read := by
    obtain ⟨details, selector, named, done⟩ := evidence.chosen read
    exact ⟨details, selector, named, done.mono⟩
  persisted written := by
    obtain ⟨path, current, candidate, selector, tag, done, same⟩ := evidence.persisted written
    exact ⟨path, current, candidate, selector, tag, done.mono, same⟩
  editionDone written := by
    obtain ⟨details, document, named, done⟩ := evidence.editionDone written
    exact ⟨details, document, named, done.mono⟩
  datasetDone written := by
    obtain ⟨details, document, named, done⟩ := evidence.datasetDone written
    exact ⟨details, document, named, done.mono⟩

/-- What is answered to a request is in its tally and in the trace. -/
theorem Evidence.call (evidence : amendment.Evidence trace caller tally) {call : Call}
    {answer : call.Answer} {site after : Site} {writes : List Write}
    (fine : amendment.conduct.fine tally call) (answered : site.Answers call answer after)
    (recorded : after.journal = site.journal ++ writes) :
    amendment.Evidence (trace ++ [.called caller site writes]) caller
      (tally.afterCall call answer) := by
  rcases tally.afterCall_eq_or call answer with same | ⟨request, value, accomplishes, same⟩
  · rw [same]
    exact evidence.mono
  · obtain ⟨details, named, allowed⟩ := exists_allows fine accomplishes
    have done : Happening.Accomplished (trace ++ [.called caller site writes]) caller request
        value := Happening.accomplished_of_answers answered recorded accomplishes
    rw [same]
    have mono : amendment.Evidence (trace ++ [.called caller site writes]) caller tally :=
      evidence.mono
    cases request with
    | getDataset id =>
      have here : id = details.datasetId := allowed
      subst here
      refine ⟨fun read => ?_, mono.chosen, mono.persisted, mono.editionDone, mono.datasetDone⟩
      cases read
      exact ⟨details, named, done⟩
    | getVersion datasetId edition number selector =>
      have here : (⟨datasetId, edition, number⟩ : VersionKey) = details.slot := allowed
      cases here
      refine ⟨mono.dataset, fun read => ?_, mono.persisted, mono.editionDone, mono.datasetDone⟩
      cases chosen : tally.chosen with
      | some stored =>
        simp only [Tally.after, chosen] at read
        cases read
        exact mono.chosen chosen
      | none =>
        simp only [Tally.after, chosen] at read
        cases read
        exact ⟨details, selector, named, done⟩
    | updateVersion path current candidate selector =>
      refine ⟨mono.dataset, mono.chosen, fun written => ?_, mono.editionDone, mono.datasetDone⟩
      cases written
      exact ⟨path, current, candidate, selector, value, done, rfl⟩
    | upsertEdition datasetId edition document =>
      obtain ⟨rfl, rfl, -⟩ := allowed
      exact ⟨mono.dataset, mono.chosen, mono.persisted,
        fun _ => ⟨details, document, named, done⟩, mono.datasetDone⟩
    | upsertDataset id document =>
      obtain ⟨rfl, -⟩ := allowed
      exact ⟨mono.dataset, mono.chosen, mono.persisted, mono.editionDone,
        fun _ => ⟨details, document, named, done⟩⟩
    | associate | getDatasetType | getEdition | checkEdition | addVersion | getInstance
    | publishInstance => exact mono

end Amendment

/-! ### What a request writes for its parents -/

section Writes

variable {amendment : Amendment} {tally : Tally} {call : Call} {site : Site} {writes : List Write}

/-- Whoever has begun with one planned write has made it. -/
theorem Write.of_prefix_singleton {planned change : Write} (begun : writes <+: [planned])
    (member : change ∈ writes) : change = planned ∧ writes = [planned] := by
  rcases List.prefix_cons_iff.mp begun with nothing | ⟨rest, rfl, further⟩
  · simp [nothing] at member
  · rw [List.prefix_nil.mp further] at member ⊢
    exact ⟨List.mem_singleton.mp member, rfl⟩

/-- A call that writes is one on the store, and what it may do it does by the tally. -/
theorem Amendment.exists_allowed (fine : amendment.conduct.fine tally call)
    (begun : writes <+: site.callWrites call) (some : writes ≠ []) :
    ∃ details request, amendment.identifiers.resolve = .ok details ∧
      tally.Allows details amendment.update (.store request) ∧
      writes <+: request.writes site.now site.catalog := by
  obtain ⟨details, named, fine⟩ := fine
  have acted {action : Action} (begun : writes <+: site.writes action) :
      ∃ request, action = .store request ∧ writes <+: request.writes site.now site.catalog := by
    cases action with
    | store request => exact ⟨request, rfl, begun⟩
    | generate | pause | now => exact absurd (List.prefix_nil.mp begun) some
  cases call with
  | act action | actBefore _ action =>
    obtain ⟨request, rfl, begun⟩ := acted begun
    exact ⟨details, request, named, fine, begun⟩
  | instant | acquire | hold | release => exact absurd (List.prefix_nil.mp begun) some

/-- What a request writes for its dataset is a promotion of the dataset that it has read, or an
association of the stored one, with the version that it has written. -/
theorem Amendment.dataset_of_mem_writes (fine : amendment.conduct.fine tally call)
    (begun : writes <+: site.callWrites call) {id : String} {document : Dataset}
    (member : .dataset id document ∈ writes) :
    ∃ details persisted, amendment.identifiers.resolve = .ok details ∧ id = details.datasetId ∧
      tally.persisted = some persisted ∧ writes = [.dataset id document] ∧
      ((tally.Targets amendment.update .published ∧ ∃ (dataset : Dataset) (now : Timestamp),
          tally.dataset = some dataset ∧
            document = { dataset.promote now persisted with id := id }) ∨
        (tally.Targets amendment.update .associated ∧ ∃ existing,
          site.catalog.datasets.get? id = some existing ∧
            document = existing.associateNext id site.now .associated persisted)) := by
  obtain ⟨details, request, named, allowed, begun⟩ :=
    exists_allowed fine begun (List.ne_nil_of_mem member)
  cases StoreCall.mayWrite_of_mem_writes (begun.subset member) with
  | @upsertDataset _ written =>
    obtain ⟨same, target, dataset, now, persisted, read, wrote, rfl⟩ := allowed
    obtain ⟨change, rfl⟩ := Write.of_prefix_singleton begun member
    cases change
    exact ⟨details, persisted, named, same, wrote, rfl, .inl ⟨target, dataset, now, read, rfl⟩⟩
  | @associate _ state version existing _ found =>
    obtain ⟨same, rfl, wrote, target⟩ := allowed
    have plan : (StoreCall.associate id .associated version).writes site.now site.catalog =
        [.dataset id (existing.associateNext id site.now .associated version)] := by
      simp only [StoreCall.writes, found]
    rw [plan] at begun
    obtain ⟨change, rfl⟩ := Write.of_prefix_singleton begun member
    cases change
    exact ⟨details, version, named, same, wrote, rfl, .inr ⟨target, existing, found, rfl⟩⟩

/-- What a request writes for its edition is a promotion with the version that it has written. -/
theorem Amendment.edition_of_mem_writes (fine : amendment.conduct.fine tally call)
    (begun : writes <+: site.callWrites call) {key : String × String} {document : Edition}
    (member : .edition key document ∈ writes) :
    ∃ details persisted, amendment.identifiers.resolve = .ok details ∧
      key = (details.datasetId, details.edition) ∧ tally.persisted = some persisted ∧
      writes = [.edition key document] ∧ ∃ (stored promoted : Edition) (now : Timestamp),
        stored.promote now persisted.versionLink = (promoted, .ok ()) ∧
          document = promoted.stamp := by
  obtain ⟨details, request, named, allowed, begun⟩ :=
    exists_allowed fine begun (List.ne_nil_of_mem member)
  cases StoreCall.mayWrite_of_mem_writes (begun.subset member) with
  | upsertEdition =>
    obtain ⟨rfl, rfl, -, stored, now, persisted, wrote, promoted⟩ := allowed
    obtain ⟨change, rfl⟩ := Write.of_prefix_singleton begun member
    cases change
    exact ⟨details, persisted, named, rfl, wrote, rfl, stored, _, now, promoted, rfl⟩

end Writes

/-! ### Many requests -/

namespace System

variable [DecidableEq ι]

/-- All requests go by their tallies, and everything in them is told by the trace. -/
structure Tallied (calls : ι → Amendment) (system : System ι (Result Version))
    (trace : List (Happening ι)) (tallies : ι → Tally) : Prop where
  abides (caller : ι) :
    (system.progress caller).Abides (calls caller).conduct (calls caller).Ends (tallies caller)
  evidence (caller : ι) : (calls caller).Evidence trace caller (tallies caller)

/-- What happens at a site, to the tallies of requests. -/
inductive Turn (calls : ι → Amendment) (site : Site) (tallies : ι → Tally) :
    List (Happening ι) → Site → (ι → Tally) → Prop
  | quiet {happenings : List (Happening ι)} {last : Site} :
    (happenings = [] ∨ ∃ caller, happenings = [.obtained caller]) → last.catalog = site.catalog →
      Turn calls site tallies happenings last tallies
  | call {caller : ι} {call : Call} {answer : call.Answer} {writes : List Write} {last : Site} :
    (calls caller).conduct.fine (tallies caller) call → writes <+: site.callWrites call →
      last.catalog = site.catalog.writeAll writes →
      Turn calls site tallies [.called caller site writes] last
        (update tallies caller ((tallies caller).afterCall call answer))
  | outside (call : StoreCall) :
    Turn calls site tallies [.outside call site] (site.store call).2 tallies

section Turns

variable {calls : ι → Amendment} {site last : Site} {tallies later : ι → Tally}
  {happenings : List (Happening ι)}

/-- A call that is fine by a tally makes the first of its writes, however it is answered. -/
theorem Turn.of_advance
    (advance : Advance (fun caller => (calls caller).conduct) site tallies happenings last later) :
    Turn calls site tallies happenings last later := by
  cases advance with
  | quiet nothing same => exact .quiet nothing same
  | call fine answered recorded =>
    obtain ⟨made, begun, catalog, journal⟩ := answered.made
    cases List.append_cancel_left (recorded.symm.trans journal)
    exact .call fine begun catalog
  | outside call => exact .outside call

theorem Turn.catalog (turn : Turn calls site tallies happenings last later) :
    last.catalog = site.catalog.writeAll (happenings.flatMap Happening.writes) := by
  cases turn with
  | quiet nothing same => rcases nothing with rfl | ⟨caller, rfl⟩ <;> exact same
  | call _ _ made => simpa [Happening.writes] using made
  | outside call =>
    rw [List.flatMap_singleton]
    exact Catalog.perform_eq_writeAll _ _ _

theorem Turn.site_eq {seen : Site} {caller : ι} {writes : List Write}
    (turn : Turn calls site tallies happenings last later)
    (member : .called caller seen writes ∈ happenings) : seen = site := by
  cases turn with
  | quiet nothing => rcases nothing with rfl | ⟨other, rfl⟩ <;> simp at member
  | call =>
    cases List.mem_singleton.mp member
    rfl
  | outside => simp at member

/-- When nobody else writes a dataset it stays as it is, or a request writes it by its tally. -/
theorem Turn.dataset_cases (turn : Turn calls site tallies happenings last later) {id : String}
    (undisturbed : ∀ call seen, .outside call seen ∈ happenings → ∀ document,
      Write.dataset id document ∉ call.writes seen.now seen.catalog) :
    (∃ caller call writes document, happenings = [.called caller site writes] ∧
      (calls caller).conduct.fine (tallies caller) call ∧ writes <+: site.callWrites call ∧
      .dataset id document ∈ writes ∧ last.catalog.datasets.get? id = some document) ∨
    ((∀ document, .dataset id document ∉ happenings.flatMap Happening.writes) ∧
      last.catalog.datasets.get? id = site.catalog.datasets.get? id) := by
  have written :=
    Catalog.get?_datasets_writeAll site.catalog (happenings.flatMap Happening.writes) id
  rw [← turn.catalog] at written
  refine written.imp (fun ⟨document, member, put⟩ => ?_) fun unwritten => unwritten
  cases turn with
  | quiet nothing => rcases nothing with rfl | ⟨caller, rfl⟩ <;> cases member
  | outside call =>
    rw [List.flatMap_singleton] at member
    exact absurd member (undisturbed call _ List.mem_cons_self document)
  | @call caller call answer writes _ fine begun =>
    rw [List.flatMap_singleton] at member
    exact ⟨caller, call, writes, document, rfl, fine, begun, member, put⟩

theorem Turn.persisted (turn : Turn calls site tallies happenings last later) {caller : ι}
    {version : Version} (written : (tallies caller).persisted = some version) :
    (later caller).persisted = some version := by
  cases turn with
  | quiet | outside => exact written
  | @call other call answer _ _ fine =>
    by_cases same : caller = other
    · subst same
      rw [Function.update_self]
      exact Amendment.persisted_afterCall fine written answer
    · rw [Function.update_of_ne same]
      exact written

end Turns

variable {calls : ι → Amendment} {system last : System ι (Result Version)}
  {trace happenings : List (Happening ι)} {tallies : ι → Tally}

omit [DecidableEq ι] in
theorem tallied_begun (ready : ∀ caller, system.progress caller = .ready (calls caller).request)
    (standard : ∀ caller, (calls caller).machine.handlers = {}) :
    system.Tallied calls [] fun _ => {} where
  abides caller := by
    rw [ready]
    exact Amendment.abides_request (standard caller)
  evidence _ := Amendment.evidence_empty

omit [DecidableEq ι] in
/-- The trace tells of all that is in the tallies. -/
theorem evident_evidence (calls : ι → Amendment) :
    Evident (fun caller => (calls caller).conduct)
      fun trace caller tally => (calls caller).Evidence trace caller tally where
  mono evidence := evidence.mono
  call evidence := evidence.call

/-- Whatever happens next is one of three things, and the requests go on by their tallies. -/
theorem Tallied.step (tallied : system.Tallied calls trace tallies)
    (step : DisturbedStep system happenings last) :
    ∃ later, Turn calls system.site tallies happenings last.site later ∧
      last.Tallied calls (trace ++ happenings) later := by
  have held : system.Held (fun caller => (calls caller).conduct)
      (fun caller => (calls caller).Ends) tallies := tallied.abides
  obtain ⟨later, advance, held⟩ :=
    held.step (fun _ => Request.ignoresLocks_conduct (Tally.conduct {} {})) step
  exact ⟨later, .of_advance advance, held,
    advance.known (evident_evidence calls) tallied.evidence⟩

/-- In every run the requests go by their tallies. -/
theorem DisturbedRuns.exists_tallied {start : System ι (Result Version)}
    (ready : ∀ caller, start.progress caller = .ready (calls caller).request)
    (standard : ∀ caller, (calls caller).machine.handlers = {})
    (run : DisturbedRuns start trace last) : ∃ tallies, last.Tallied calls trace tallies := by
  induction run with
  | begun => exact ⟨_, tallied_begun ready standard⟩
  | step _ step inductionHypothesis =>
    obtain ⟨tallies, tallied⟩ := inductionHypothesis
    obtain ⟨later, -, next⟩ := tallied.step step
    exact ⟨later, next⟩

end System

end ReleaseCatalog
