/-
A request with a selector of its own is a compare-and-swap. Others may do to the catalog whatever
they like between any two calls of the request, take locks and give them back; and every call may
fail. Still the request replaces the version only while the stored document carries the selected
tag, at the first attempt and at the second. When no attempt meets such a document the request fails
and has changed nothing.

What others do cannot be known, so that the argument is about answers alone: the tag with which a
write is conditioned was read from a document that was itself read by the selector.
-/

import ReleaseCatalog.Proofs.Workflow.Cascade

namespace ReleaseCatalog

/-! ### Interference -/

/-- What others may do to a site between two calls: make a call on the store, use the locks, or let
time pass. -/
inductive Site.Interferes (site : Site) : Site → Prop
  | store (call : StoreCall) : Interferes site (site.store call).2
  | locks (arena : Arena) : Interferes site (site.withArena arena)
  | time (calendar : Nat → Timestamp) : Interferes site (site.withCalendar calendar)

/-- Requests on a disturbed site, with others there. -/
def Request.interfered : Program.Setting Call.Answer Site where
  answers call site answer after := site.Answers call answer after
  outside := Site.Interferes

/-- The writes that a call has made, by the journal. -/
def Site.written (event : Program.Event Call.Answer Site) : List Write :=
  event.after.journal.drop event.before.journal.length

/-- The slot whose version an action attempts to replace. -/
def Action.replaces? : Action → Option VersionKey
  | .store (.updateVersion _ current _ _) => some current.key
  | _ => none

/-- The slot whose version a call attempts to replace. -/
def Call.replaces? : Call → Option VersionKey
  | .act action => action.replaces?
  | .actBefore _ action => action.replaces?
  | _ => none

namespace Site

/-- Catalogs stay well filed, whatever a request and the others do. -/
theorem Answers.wellFiled {site after : Site} {call : Call} {answer : call.Answer}
    (answered : site.Answers call answer after) (filed : site.catalog.WellFiled) :
    after.catalog.WellFiled := by
  obtain ⟨writes, begun, catalog, -⟩ := answered.made
  rw [catalog]
  refine filed.writeAll fun change member => ?_
  have planned := begun.subset member
  unfold callWrites Site.writes at planned
  split at planned
  · split at planned
    · exact filed.isFiled_of_mem_writes planned
    · cases planned
  · split at planned
    · exact filed.isFiled_of_mem_writes planned
    · cases planned
  · cases planned

theorem Interferes.wellFiled {site after : Site} (interferes : site.Interferes after)
    (filed : site.catalog.WellFiled) : after.catalog.WellFiled := by
  cases interferes with
  | store call => exact filed.perform _ call
  | locks | time => exact filed

end Site

/-- A request meets only well filed catalogs. -/
theorem Request.wellFiled_before {α : Type} {request : Request α} {site last : Site}
    {events : List (Program.Event Call.Answer Site)} {outcome : Option α}
    (filed : site.catalog.WellFiled)
    (run : Program.Runs Request.interfered request site events outcome last) :
    ∀ event ∈ events, event.before.catalog.WellFiled := by
  intro event member
  exact (run.invariant (fun site => site.catalog.WellFiled) (fun _ _ _ _ => Site.Answers.wellFiled)
    (fun _ _ => Site.Interferes.wellFiled) filed event member).1

/-! ### Answers that can be relied on -/

section Selection

variable (slot : VersionKey) (selector : String) (accepted : Prop)

/-- What can be said of an answer whatever others do: a version that was read stands in its slot and
carries the tag that it was selected by, and a write by the selected tag was accepted. -/
def Action.Honest : (action : Action) → action.Answer → Prop
  | .store (.getVersion datasetId edition number eTag), .ok document =>
    document.key = ⟨datasetId, edition, number⟩ ∧ (eTag ≠ ETag.any → document.eTag = eTag)
  | .store (.updateVersion _ _ _ eTag), .ok _ => eTag = selector → accepted
  | _, _ => True

/-- A version is replaced in its slot and by the selected tag only, none is added, and other
documents are written only after such a write was accepted. -/
def Action.Careful : Action → Prop
  | .store (.updateVersion _ current _ eTag) => current.key = slot ∧ eTag = selector
  | .store (.addVersion _) => False
  | .store (.upsertDataset _ _) | .store (.associate _ _ _) | .store (.upsertEdition _ _ _)
  | .store (.publishInstance _) => accepted
  | _ => True

/-- What can be said of the answer to a call, if it was carried out. -/
def Call.Honest : (call : Call) → call.Answer → Prop
  | .act action, answer => action.Honest selector accepted answer
  | .actBefore _ action, some answer => action.Honest selector accepted answer
  | _, _ => True

/-- A call makes only careful actions. -/
def Call.Careful : Call → Prop
  | .act action => action.Careful slot selector accepted
  | .actBefore _ action => action.Careful slot selector accepted
  | _ => True

end Selection

/-! ### Careful steps -/

section Careful

open Program

variable {slot : VersionKey} {selector : String} {accepted : Prop} {α β : Type}

/-- As long as answers can be relied on the steps are careful, and they succeed only with values as
required. -/
def Steps.Careful (slot : VersionKey) (selector : String) (accepted : Prop) (holds : α → Prop)
    (steps : Steps (Result α)) : Prop :=
  Upholds (Action.Honest selector accepted) (Action.Careful slot selector accepted)
    (fun result => ∀ value, result = .ok value → holds value) steps

namespace TransitionContext

variable {context : TransitionContext}

/-- A candidate is written by the tag of the version that it was merged from. -/
theorem careful_write (specific : context.ifMatch ≠ ETag.any) (path : WritePath)
    {current candidate : Version} (own : current.key = slot) (tagged : current.eTag = selector) :
    Steps.Careful slot selector accepted (fun _ => accepted)
      (context.write path current candidate) := by
  have conditioned : context.writeSelector current = selector := by
    simp [writeSelector, specific, tagged]
  refine Steps.assures_andThen (Steps.assures_store ⟨own, conditioned⟩ fun _ honest =>
    honest conditioned) fun _ held => Steps.assures_ok held

/-- The version is read again by the selector. -/
theorem careful_refresh (specific : context.ifMatch ≠ ETag.any)
    (selected : context.ifMatch = selector) :
    Steps.Careful context.details.slot selector accepted
      (fun pair => pair.1.key = context.details.slot ∧ pair.1.eTag = selector)
      context.refresh := by
  have reads : Steps.Careful context.details.slot selector accepted
      (fun current : Version => current.key = context.details.slot ∧ current.eTag = selector)
      (Steps.store (.getVersion context.details.datasetId context.details.edition
        context.details.number context.ifMatch)) :=
    Steps.assures_store trivial fun current honest =>
      ⟨honest.1, (honest.2 specific).trans selected⟩
  exact Steps.assures_andThen reads fun current held =>
    Steps.assures_require fun _ _ => Steps.assures_ok held

/-- Both attempts to write the candidate are careful. -/
theorem careful_persist (specific : context.ifMatch ≠ ETag.any)
    (selected : context.ifMatch = selector) (path : WritePath)
    (own : context.current.key = context.details.slot) (tagged : context.current.eTag = selector) :
    Steps.Careful context.details.slot selector accepted (fun _ => accepted)
      (context.persist path) := by
  refine Steps.assures_bind (careful_write specific path own tagged)
    (fun _ held => Steps.assures_ok held) fun error => ?_
  by_cases retried : error.isRetryable = true
  · simp only [if_pos retried]
    exact Steps.assures_act_bind trivial fun _ => Steps.assures_andThen
      (careful_refresh specific selected) fun pair found =>
        careful_write specific path found.1 found.2
  · simp only [if_neg retried]
    exact Steps.assures_error error

end TransitionContext

/-- After the version was accepted every handler may go on. -/
theorem Handler.careful_afterwards (context : TransitionContext) (handler : Handler)
    (type : DatasetType) (persisted : Version) (held : accepted) :
    Steps.Careful slot selector accepted (fun _ => accepted)
      (handler.afterwards context type persisted) := by
  have careful (action : Action) (parents : action.IsForParents) :
      action.Careful slot selector accepted := by
    cases action with
    | store call => cases call <;> first | exact held | exact trivial | cases parents
    | generate | pause | now => exact trivial
  exact ((handler.forParents_afterwards context type persisted).of_fine careful).mono
    fun _ _ _ _ => held

/-! ### Careful requests -/

namespace Machine

variable {machine : Machine} {details : VersionDetails} {update : Version}
  {options : AmendOptions}

/-- The steps under the lock are careful, with whichever handlers and rules. -/
theorem careful_locked (specific : options.ifMatch ≠ ETag.any) :
    Steps.Careful details.slot options.ifMatch accepted (fun _ => accepted)
      (machine.locked details update options) := by
  refine Steps.assures_andThen (Steps.assures_store trivial fun _ _ => trivial)
    fun dataset _ => ?_
  refine Steps.assures_andThen (Steps.assures_store trivial fun _ _ => trivial) fun _ _ => ?_
  have reads : Steps.Careful details.slot options.ifMatch accepted
      (fun current : Version => current.key = details.slot ∧ current.eTag = options.ifMatch)
      (Steps.store
        (.getVersion details.datasetId details.edition details.number options.ifMatch)) :=
    Steps.assures_store trivial fun current honest => ⟨honest.1, honest.2 specific⟩
  refine Steps.assures_andThen reads fun current ⟨own, tagged⟩ => ?_
  refine Steps.assures_require fun checked passed => ?_
  obtain ⟨valid, target, type, state, -⟩ := TransitionContext.checkMove_eq_ok_iff.mp passed
  simp only [state]
  rw [Handler.steps_eq _ _ valid]
  refine Steps.assures_require fun type _ => Steps.assures_andThen
    (TransitionContext.careful_persist specific rfl _ own tagged) fun persisted held => ?_
  exact Handler.careful_afterwards _ _ type persisted held

end Machine

/-- What can be said of calls is what can be said of the actions that they carry out. -/
theorem Request.forwards_careful :
    Request.Forwards (Action.Honest selector accepted) (Action.Careful slot selector accepted)
      (Call.Honest selector accepted) (Call.Careful slot selector accepted) where
  act := id
  inTime := id
  call := id
  callBefore := id
  clock := trivial

/-- A request with a selector of its own is careful, and succeeds only if it was accepted. -/
theorem Machine.upholds_amendVersion {machine : Machine} {details : VersionDetails}
    {update : Version} {options : AmendOptions} (specific : options.ifMatch ≠ ETag.any) :
    Upholds (Call.Honest options.ifMatch accepted)
      (Call.Careful details.slot options.ifMatch accepted)
      (fun result => ∀ version, result = .ok version → accepted)
      (machine.amendVersion details update options) :=
  Request.upholds_amendVersion Request.forwards_careful trivial (fun _ => trivial)
    (fun _ _ => trivial) (Machine.careful_locked specific)

end Careful

/-! ### Runs among others -/

namespace Site

/-- What a store answers to a write by the selected tag says whether it met that tag. -/
theorem Carries.honest {selector : String} {accepted : Prop} {site after : Site} {action : Action}
    {answer : action.Answer} (specific : selector ≠ ETag.any)
    (carried : site.Carries action answer after) (filed : site.catalog.WellFiled)
    (meets : ∀ slot, action.replaces? = some slot → ∀ stored,
      site.catalog.versions.get? slot = some stored → stored.eTag = selector → accepted) :
    action.Honest selector accepted answer := by
  cases carried with
  | failed call error => cases call <;> trivial
  | generated => trivial
  | served =>
    cases action with
    | generate | pause | now => trivial
    | store call =>
      show Action.Honest selector accepted (.store call) (site.catalog.perform site.now call).1
      cases answer : (site.catalog.perform site.now call).1 with
      | error error => cases call <;> trivial
      | ok value =>
        cases call with
        | getVersion datasetId edition number eTag =>
          obtain ⟨found, admitted⟩ := Catalog.getVersion_eq_ok_iff.mp answer
          exact ⟨filed _ _ found, fun other => ETag.eq_of_admits other admitted⟩
        | updateVersion path current candidate eTag =>
          intro same
          subst same
          change (Catalog.updateVersion _ _ _ _ _ _).1 = _ at answer
          cases found : site.catalog.versions.get? current.key with
          | none => simp [Catalog.updateVersion, found] at answer
          | some stored =>
            rw [Catalog.updateVersion_of_found found] at answer
            by_cases admitted : ETag.admits eTag stored.eTag = true
            · exact meets _ rfl stored found (ETag.eq_of_admits specific admitted)
            · simp [admitted] at answer
        | _ => trivial

/-- A careful action writes a version only in its slot and over the selected tag. -/
theorem of_version_mem_writes {selected slot : VersionKey} {selector : String} {accepted : Prop}
    {site : Site} {action : Action} {document : Version} (specific : selector ≠ ETag.any)
    (careful : action.Careful selected selector accepted)
    (member : Write.version slot document ∈ site.writes action) :
    slot = selected ∧ ∃ stored, site.catalog.versions.get? slot = some stored ∧
      stored.eTag = selector := by
  cases action with
  | generate | pause | now => cases member
  | store call =>
    rcases Catalog.version_mem_writes member with
      ⟨version, rfl⟩ | ⟨path, current, candidate, eTag, stored, rfl, rfl, found, admitted, -⟩
    · exact careful.elim
    · obtain ⟨own, rfl⟩ := careful
      exact ⟨own, stored, found, ETag.eq_of_admits specific admitted⟩

/-- A careful action writes nothing when no write was accepted and it does not meet the tag. -/
theorem writes_eq_nil_of_careful {selected : VersionKey} {selector : String} {site : Site}
    {action : Action} (specific : selector ≠ ETag.any)
    (careful : action.Careful selected selector False)
    (misses : ∀ slot, action.replaces? = some slot → ∀ stored,
      site.catalog.versions.get? slot = some stored → stored.eTag ≠ selector) :
    site.writes action = [] := by
  cases action with
  | generate | pause | now => rfl
  | store call =>
    cases call with
    | getDataset | getDatasetType | getEdition | checkEdition | getVersion | getInstance => rfl
    | upsertDataset | associate | upsertEdition | addVersion | publishInstance =>
      exact careful.elim
    | updateVersion path current candidate eTag =>
      obtain ⟨own, rfl⟩ := careful
      show (StoreCall.updateVersion path current candidate eTag).writes site.now site.catalog = []
      cases found : site.catalog.versions.get? current.key with
      | none => simp only [StoreCall.writes, found]
      | some stored =>
        rw [Catalog.writes_updateVersion_of_found found]
        exact if_neg fun admitted =>
          misses _ rfl stored found (ETag.eq_of_admits specific admitted)

theorem of_version_mem_callWrites {selected slot : VersionKey} {selector : String}
    {accepted : Prop} {site : Site} {call : Call} {document : Version}
    (specific : selector ≠ ETag.any) (careful : call.Careful selected selector accepted)
    (member : Write.version slot document ∈ site.callWrites call) :
    slot = selected ∧ ∃ stored, site.catalog.versions.get? slot = some stored ∧
      stored.eTag = selector := by
  cases call with
  | act action => exact of_version_mem_writes specific careful member
  | actBefore expiry action => exact of_version_mem_writes specific careful member
  | instant | acquire | hold | release => cases member

theorem callWrites_eq_nil_of_careful {selected : VersionKey} {selector : String} {site : Site}
    {call : Call} (specific : selector ≠ ETag.any)
    (careful : call.Careful selected selector False)
    (misses : ∀ slot, call.replaces? = some slot → ∀ stored,
      site.catalog.versions.get? slot = some stored → stored.eTag ≠ selector) :
    site.callWrites call = [] := by
  cases call with
  | act action => exact writes_eq_nil_of_careful specific careful misses
  | actBefore expiry action => exact writes_eq_nil_of_careful specific careful misses
  | instant | acquire | hold | release => rfl

theorem Answers.honest {selector : String} {accepted : Prop} {site after : Site} {call : Call}
    {answer : call.Answer} (specific : selector ≠ ETag.any)
    (answered : site.Answers call answer after) (filed : site.catalog.WellFiled)
    (meets : ∀ slot, call.replaces? = some slot → ∀ stored,
      site.catalog.versions.get? slot = some stored → stored.eTag = selector → accepted) :
    call.Honest selector accepted answer := by
  cases answered with
  | act carried => exact carried.honest specific filed meets
  | inTime expiry carried => exact carried.honest specific filed meets
  | late | instant | acquired | notAcquired | held | notHeld | released => trivial

end Site

namespace Machine

open Program

variable {machine : Machine} {identifiers : VersionIdentifiers} {update : Version}
  {options : AmendOptions} {site last : Site} {events : List (Event Call.Answer Site)}
  {outcome : Option (Result Version)}

/-- Among others every call of a request is careful, and it succeeds only if it was accepted. -/
theorem careful_of_runs {details : VersionDetails} {accepted : Prop}
    (specific : options.ifMatch ≠ ETag.any) (named : identifiers.resolve = .ok details)
    (filed : ∀ event ∈ events, event.before.catalog.WellFiled)
    (run : Runs Request.interfered (machine.amend identifiers update options) site events outcome
      last)
    (meets : ∀ event ∈ events, ∀ slot, event.call.replaces? = some slot → ∀ stored,
      event.before.catalog.versions.get? slot = some stored → stored.eTag = options.ifMatch →
        accepted) :
    (∀ event ∈ events, event.call.Careful details.slot options.ifMatch accepted) ∧
      ∀ version, outcome = some (.ok version) → accepted := by
  have upholds : Upholds (Call.Honest options.ifMatch accepted)
      (Call.Careful details.slot options.ifMatch accepted)
      (fun result => ∀ version, result = .ok version → accepted)
      (machine.amend identifiers update options) := by
    unfold amend
    simp only [named]
    split
    · exact fun _ => nofun
    · exact upholds_amendVersion specific
  obtain ⟨careful, succeeds⟩ := run.upholds upholds fun event member =>
    (run.answers_of_mem member).honest specific (filed event member) (meets event member)
  exact ⟨careful, fun version same => succeeds _ same version rfl⟩

/-- A request whose identifiers name nothing makes no call and fails. -/
theorem upholds_of_unresolved {error : CatalogError}
    (unresolved : identifiers.resolve = .error error) :
    Upholds (fun _ _ => True) (fun _ => False)
      (fun result => ∀ version, result ≠ .ok version)
      (machine.amend identifiers update options) := by
  unfold amend
  simp only [unresolved]
  exact fun _ => nofun

/-- A request with a selector of its own replaces the version only while the stored document carries
the selected tag, whatever others do between its calls. When none of its attempts to write meets
such a document the request fails and its calls change nothing. -/
theorem amend_compares_and_swaps (specific : options.ifMatch ≠ ETag.any)
    (filed : site.catalog.WellFiled)
    (run : Runs Request.interfered (machine.amend identifiers update options) site events outcome
      last) :
    (∀ event ∈ events, ∀ slot document, Write.version slot document ∈ Site.written event →
      ∃ details stored, identifiers.resolve = .ok details ∧ slot = details.slot ∧
        event.before.catalog.versions.get? slot = some stored ∧
        stored.eTag = options.ifMatch) ∧
    ((∀ event ∈ events, ∀ slot, event.call.replaces? = some slot → ∀ stored,
        event.before.catalog.versions.get? slot = some stored →
          stored.eTag ≠ options.ifMatch) →
      (∀ version, outcome ≠ some (.ok version)) ∧
        ∀ event ∈ events, event.after.catalog = event.before.catalog) := by
  have files := Request.wellFiled_before filed run
  have writes : ∀ event ∈ events, ∃ writes, writes <+: event.before.callWrites event.call ∧
      event.after.catalog = event.before.catalog.writeAll writes ∧
      Site.written event = writes := by
    intro event member
    obtain ⟨writes, begun, catalog, journal⟩ := (run.answers_of_mem member).made
    exact ⟨writes, begun, catalog, by rw [Site.written, journal, List.drop_left]⟩
  cases named : identifiers.resolve with
  | error error =>
    obtain ⟨noCalls, failed⟩ := run.upholds (upholds_of_unresolved named) fun _ _ => trivial
    refine ⟨fun event member => (noCalls event member).elim, fun _ => ⟨fun version same => ?_,
      fun event member => (noCalls event member).elim⟩⟩
    exact failed _ same version rfl
  | ok details =>
    constructor
    · intro event member slot document written
      obtain ⟨careful, -⟩ := careful_of_runs specific named files run fun _ _ _ _ _ _ _ => trivial
      obtain ⟨_, begun, -, same⟩ := writes event member
      obtain ⟨stands, stored, found, tagged⟩ := Site.of_version_mem_callWrites specific
        (careful event member) (begun.subset (same ▸ written))
      exact ⟨details, stored, rfl, stands, found, tagged⟩
    · intro misses
      obtain ⟨careful, failed⟩ := careful_of_runs specific named files run misses
      refine ⟨failed, fun event member => ?_⟩
      obtain ⟨_, begun, catalog, -⟩ := writes event member
      rw [Site.callWrites_eq_nil_of_careful specific (careful event member)
        (misses event member), List.prefix_nil] at begun
      rw [catalog, begun, Catalog.writeAll_nil]

/-- A write of a version loses its race on the day of the sample. -/
def losesRace (site : Site) : StoreCall → Option CatalogError
  | .updateVersion _ current _ selector =>
    if site.now = .sample then some (.conflict current.resource selector) else none
  | _ => none

/-- A day goes by while a request pauses. -/
def dayLater (call : Call) (site : Site) : Site :=
  match call with
  | .act .pause => site.withCalendar fun _ => ⟨⟨2024, 1, 18⟩, ⟨9, 30, 0, 0⟩, by decide⟩
  | _ => site

/-- A request selects the version by the tag that it carries. Its first attempt to write it meets a
conflict, and at the second one it replaces the version. -/
theorem amend_compares_and_swaps_sample :
    let machine : Machine := {}
    let identifiers : VersionIdentifiers := ⟨"cpih01", "time-series", "1"⟩
    let slot : VersionKey := ⟨"cpih01", "time-series", 1⟩
    let update : Version := { state := some .published }
    let options : AmendOptions := { ifMatch := "0d4f" }
    let stored : Version := {
      id := "import-1", datasetId := "cpih01", edition := "time-series", number := 1
      type := "filterable", state := some .associated, releaseDate := "2024-01-17"
      links := some { version := some ⟨"1", "/versions/1"⟩ }, eTag := "0d4f" }
    let site := Site.sample.make [.version slot stored]
    let request := machine.amend identifiers update options
    let events := request.eventsAmong dayLater (Site.performUnless losesRace) site
    options.ifMatch ≠ ETag.any ∧ site.catalog.WellFiled ∧
      (events.filterMap fun event => event.call.replaces?) = [slot, slot] ∧
      (events.flatMap fun event => Write.documentsAt slot (Site.written event)).length = 1 ∧
      ∃ outcome last, Runs Request.interfered request site events outcome last ∧
        (∀ event ∈ events, ∀ slot document, Write.version slot document ∈ Site.written event →
          ∃ details stored, identifiers.resolve = .ok details ∧ slot = details.slot ∧
            event.before.catalog.versions.get? slot = some stored ∧
            stored.eTag = options.ifMatch) ∧
        ((∀ event ∈ events, ∀ slot, event.call.replaces? = some slot → ∀ stored,
            event.before.catalog.versions.get? slot = some stored →
              stored.eTag ≠ options.ifMatch) →
          (∀ version, outcome ≠ some (.ok version)) ∧
            ∀ event ∈ events, event.after.catalog = event.before.catalog) := by
  intro machine identifiers slot update options stored site request events
  have filed : site.catalog.WellFiled :=
    Site.wellFiled_sample.writeAll fun change member => by
      cases List.mem_singleton.mp member
      rfl
  have meddles : ∀ call site, dayLater call site = site ∨ site.Interferes (dayLater call site) := by
    intro call site
    unfold dayLater
    split
    · exact .inr (.time _)
    · exact .inl rfl
  have run := Program.runs_eventsAmong Request.interfered dayLater (Site.performUnless losesRace)
    (fun call site => site.answers_performUnless losesRace call) meddles request site
  exact ⟨by decide, filed, by decide +kernel, by decide +kernel, _, _, run,
    amend_compares_and_swaps (by decide) filed run⟩

end Machine

end ReleaseCatalog
