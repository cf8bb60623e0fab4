/-
What a request can reach. It reads and writes the version that it is for, the edition and the
dataset of that version, and the record of the instance behind it, and nothing else, by whichever
handler the move is carried out and whatever goes wrong on the way. The record is found by an
identifier that the stored version carries, so that this takes a catalog in which every version
stands in its own slot.

Two requests that reach nothing in common do not notice each other. Each fares as it would have
fared alone, and the order in which they come makes no difference to the catalog.
-/

import ReleaseCatalog.Proofs.Store.Places
import ReleaseCatalog.Proofs.Workflow.Gate

namespace ReleaseCatalog

namespace Program

variable {Call : Type} {Answer : Call → Type} {α σ : Type}
  {honest : (call : Call) → Answer call → Prop} {fine : Call → Prop} {post : α → Prop}

theorem run_step (perform : (call : Call) → σ → Answer call × σ) (call : Call)
    (next : Answer call → Program Call Answer α) (state : σ) :
    (step call next).run perform state =
      (next (perform call state).1).run perform (perform call state).2 := rfl

/-- From related states a program has the same result and leaves related states, if its calls are
answered alike there. -/
theorem Upholds.run_related {perform : (call : Call) → σ → Answer call × σ} {related : σ → σ → Prop}
    (alike : ∀ call first second, fine call → related first second →
      (perform call first).1 = (perform call second).1 ∧ honest call (perform call first).1 ∧
        related (perform call first).2 (perform call second).2)
    {program : Program Call Answer α} {first second : σ}
    (upholds : Upholds honest fine post program) (begun : related first second) :
    (program.run perform first).1 = (program.run perform second).1 ∧
      related (program.run perform first).2 (program.run perform second).2 := by
  induction program generalizing first second with
  | done result => exact ⟨rfl, begun⟩
  | step call next inductionHypothesis =>
    obtain ⟨same, honestly, still⟩ := alike call first second upholds.1 begun
    have rest := inductionHypothesis _ (upholds.2 _ honestly) still
    rwa [run_step, run_step, ← same]

end Program

open Program

/-! ### Keeping to a region -/

variable {region : Region}

/-- The region has what a version brings into play: its dataset, its edition and its slot. -/
structure Region.Hosts (region : Region) (details : VersionDetails) : Prop where
  dataset : region (.dataset details.datasetId)
  edition : region (.edition (details.datasetId, details.edition))
  version : region (.version details.slot)

/-- A call of an action on the store is within the region. -/
def Action.Within (region : Region) : Action → Prop
  | .store call => call.Within region
  | _ => True

/-- A version that was read in the region stands in its slot, and has its record in the region. -/
def Action.Faithful (region : Region) : (action : Action) → action.Answer → Prop
  | .store (.getVersion datasetId edition number _), .ok document =>
    region (.version ⟨datasetId, edition, number⟩) →
      document.key = ⟨datasetId, edition, number⟩ ∧ region (.record document.id)
  | _, _ => True

/-- An action of a call is within the region. -/
def Call.Within (region : Region) : Call → Prop
  | .act action => action.Within region
  | .actBefore _ action => action.Within region
  | _ => True

/-- What can be said of the answer to a call, if it was carried out. -/
def Call.Faithful (region : Region) : (call : Call) → call.Answer → Prop
  | .act action, answer => action.Faithful region answer
  | .actBefore _ action, some answer => action.Faithful region answer
  | _, _ => True

theorem Request.forwards_within :
    Request.Forwards (Action.Faithful region) (Action.Within region) (Call.Faithful region)
      (Call.Within region) where
  act := id
  inTime := id
  call := id
  callBefore := id
  clock := trivial

/-- As long as versions are read faithfully the steps keep to the region, and they succeed only with
values as required. -/
def Steps.KeepTo {α : Type} (region : Region) (holds : α → Prop) (steps : Steps (Result α)) :
    Prop :=
  steps.Assures (Action.Faithful region) (Action.Within region) holds

theorem Steps.keepTo_store {call : StoreCall} (within : call.Within region) :
    Steps.KeepTo region (fun _ : call.Value => True) (Steps.store call) :=
  Steps.assures_store within fun _ _ => trivial

namespace TransitionContext

variable {context : TransitionContext}

theorem keepTo_write (path : WritePath) {current candidate : Version}
    (own : region (.version current.key)) (record : region (.record candidate.id)) :
    Steps.KeepTo region (fun persisted : Version => region (.record persisted.id))
      (context.write path current candidate) :=
  Steps.assures_andThen (Steps.keepTo_store own) fun _ _ => Steps.assures_ok record

/-- The version is read where it stands. -/
theorem keepTo_read {details : VersionDetails} (hosts : region.Hosts details) (selector : String) :
    Steps.KeepTo region
      (fun current : Version => region (.version current.key) ∧ region (.record current.id))
      (Steps.store (.getVersion details.datasetId details.edition details.number selector)) := by
  refine Steps.assures_store hosts.version fun current faithful => ?_
  obtain ⟨own, record⟩ := faithful hosts.version
  exact ⟨own ▸ hosts.version, record⟩

theorem keepTo_refresh (hosts : region.Hosts context.details) :
    Steps.KeepTo region
      (fun pair : Version × Version => region (.version pair.1.key) ∧ region (.record pair.2.id))
      context.refresh :=
  Steps.assures_andThen (keepTo_read hosts _) fun _ found =>
    Steps.assures_require fun _ _ => Steps.assures_ok found

theorem keepTo_persist (hosts : region.Hosts context.details)
    (own : region (.version context.current.key)) (record : region (.record context.candidate.id))
    (path : WritePath) :
    Steps.KeepTo region (fun persisted : Version => region (.record persisted.id))
      (context.persist path) := by
  refine Steps.assures_bind (keepTo_write path own record)
    (fun _ held => Steps.assures_ok held) fun error => ?_
  by_cases retried : error.isRetryable = true
  · simp only [if_pos retried]
    exact Steps.assures_act_bind trivial fun _ => Steps.assures_andThen (keepTo_refresh hosts)
      fun _ found => keepTo_write path found.1 found.2
  · simp only [if_neg retried]
    exact Steps.assures_error error

end TransitionContext

/-- For the parents a handler goes to the edition, the dataset and the record. -/
theorem Handler.MayTake.within {context : TransitionContext} {persisted : Version}
    {handler : Handler} {action : Action} (may : handler.MayTake context persisted action)
    (hosts : region.Hosts context.details) (record : region (.record persisted.id)) :
    action.Within region := by
  cases may with
  | readEdition | promoteEdition => exact hosts.edition
  | publishInstance => exact record
  | readType | promoteDataset | associate => exact hosts.dataset
  | generate | now => trivial

namespace Machine

variable {machine : Machine} {details : VersionDetails} {update : Version} {options : AmendOptions}

/-- The steps under the lock keep to a region that has what their version brings into play. -/
theorem keepTo_locked (hosts : region.Hosts details) :
    Steps.KeepTo region (fun _ : Version => True) (machine.locked details update options) := by
  refine Steps.assures_andThen (Steps.keepTo_store hosts.dataset) fun dataset _ => ?_
  refine Steps.assures_andThen (Steps.keepTo_store hosts.edition) fun _ _ => ?_
  refine Steps.assures_andThen (TransitionContext.keepTo_read hosts _) fun current found => ?_
  refine Steps.assures_require fun checked passed => ?_
  obtain ⟨valid, target, type, state, -⟩ := TransitionContext.checkMove_eq_ok_iff.mp passed
  simp only [state]
  rw [Handler.steps_eq _ _ valid]
  refine Steps.assures_require fun type _ => Steps.assures_andThen
    (TransitionContext.keepTo_persist hosts found.1 found.2 _) fun persisted record => ?_
  exact ((Handler.take_afterwards _ _ type persisted).of_fine fun _ may =>
    may.within hosts record).mono fun _ _ _ _ => trivial

end Machine

namespace Amendment

variable {amendment : Amendment}

/-- A request is rejected at once, or it goes on to the version that it names. -/
theorem rejected_or_isFor (amendment : Amendment) :
    (∃ error, amendment.request = .done (.error error)) ∨
      ∃ details, amendment.identifiers.resolve = .ok details ∧ amendment.IsFor details := by
  unfold IsFor request Machine.amend
  cases amendment.identifiers.resolve with
  | error error => exact .inl ⟨error, rfl⟩
  | ok details =>
    by_cases unknown : amendment.update.type ≠ "" ∧
        DatasetType.resolve? amendment.update.type = none
    · exact .inl ⟨_, if_pos unknown⟩
    · exact .inr ⟨details, rfl, if_neg unknown⟩

/-- The region has what the version of a request brings into play, if it names one. -/
def HasRoom (amendment : Amendment) (region : Region) : Prop :=
  ∀ details, amendment.identifiers.resolve = .ok details → region.Hosts details

/-- The whole request keeps to the region, with or without a deadline. -/
theorem keepTo_request (room : amendment.HasRoom region) :
    Upholds (Call.Faithful region) (Call.Within region) (fun _ => True) amendment.request := by
  rcases amendment.rejected_or_isFor with ⟨error, rejected⟩ | ⟨details, named, isFor⟩
  · rw [rejected]
    trivial
  · rw [isFor]
    exact (Request.upholds_amendVersion Request.forwards_within (room details named).dataset
      (fun _ => trivial) (fun _ _ => trivial) (Machine.keepTo_locked (room details named))).mono
        fun _ _ => trivial

end Amendment

/-! ### On a site -/

namespace Site

variable {site after : Site} {action : Action} {call : Call}

theorem Carries.faithful {answer : action.Answer} (carried : site.Carries action answer after)
    (closed : region.IsClosed site.catalog) : action.Faithful region answer := by
  cases carried with
  | failed call error => cases call <;> trivial
  | generated => trivial
  | served =>
    cases action with
    | generate | pause | now => trivial
    | store call =>
      show Action.Faithful region (.store call) (site.catalog.perform site.now call).1
      cases answer : (site.catalog.perform site.now call).1 with
      | error error => cases call <;> trivial
      | ok value =>
        cases call with
        | getVersion datasetId edition number selector =>
          exact fun inside => closed _ _ inside (Catalog.getVersion_eq_ok_iff.mp answer).1
        | _ => trivial

theorem Answers.faithful {answer : call.Answer} (answered : site.Answers call answer after)
    (closed : region.IsClosed site.catalog) : call.Faithful region answer := by
  cases answered with
  | act carried => exact carried.faithful closed
  | inTime expiry carried => exact carried.faithful closed
  | late | instant | acquired | notAcquired | held | notHeld | released => trivial

/-- A call within a closed region writes there only, and puts versions in their own slots. -/
theorem place_of_mem_callWrites (within : call.Within region)
    (closed : region.IsClosed site.catalog) {change : Write}
    (member : change ∈ site.callWrites call) :
    region change.place ∧ ∀ slot version, change = .version slot version →
      version.key = slot ∧ region (.record version.id) := by
  have written {action : Action} (within : action.Within region)
      (member : change ∈ site.writes action) :
      region change.place ∧ ∀ slot version, change = .version slot version →
        version.key = slot ∧ region (.record version.id) := by
    cases action with
    | store call => exact StoreCall.Within.place_of_mem_writes within closed member
    | generate | pause | now => cases member
  cases call with
  | act action => exact written within member
  | actBefore expiry action => exact written within member
  | instant | acquire | hold | release => cases member

/-- What a region leaves alone: it is closed, and all places outside are as they were. -/
structure Stays (region : Region) (site after : Site) : Prop where
  closed : region.IsClosed after.catalog
  outside : ∀ place, ¬region place → after.catalog.find? place = site.catalog.find? place

theorem Stays.trans {between : Site} (first : Stays region site between)
    (second : Stays region between after) : Stays region site after :=
  ⟨second.closed, fun place outside =>
    (second.outside place outside).trans (first.outside place outside)⟩

theorem Answers.stays {answer : call.Answer} (answered : site.Answers call answer after)
    (within : call.Within region) (closed : region.IsClosed site.catalog) :
    Stays region site after := by
  obtain ⟨writes, begun, catalog, -⟩ := answered.made
  have inside : ∀ change ∈ writes, _ := fun change member =>
    place_of_mem_callWrites within closed (begun.subset member)
  constructor
  · rw [catalog]
    exact closed.writeAll fun slot version member => (inside _ member).2 slot version rfl
  · intro place outside
    rw [catalog]
    refine Catalog.find?_writeAll_other _ fun change member same => ?_
    exact outside (same ▸ (inside change member).1)

/-- Two sites show the same in a closed region, and the same readings of the calendar. -/
structure Alike (region : Region) (first second : Site) : Prop where
  closed : region.IsClosed first.catalog
  agree : region.Agree first.catalog second.catalog
  calendar : first.calendar = second.calendar

theorem Alike.later {first second : Site} (alike : Alike region first second) :
    Alike region first.later second.later :=
  ⟨alike.closed, alike.agree, funext fun reading => congrFun alike.calendar (reading + 1)⟩

theorem Alike.withArena {first second : Site} (alike : Alike region first second)
    (one two : Arena) : Alike region (first.withArena one) (second.withArena two) :=
  ⟨alike.closed, alike.agree, alike.calendar⟩

/-- On such sites an action within the region is answered alike, and leaves such sites. -/
theorem Alike.act {first second : Site} (alike : Alike region first second)
    (within : action.Within region) :
    (first.act action).1 = (second.act action).1 ∧ action.Faithful region (first.act action).1 ∧
      Alike region (first.act action).2 (second.act action).2 := by
  have now : first.now = second.now := congrFun alike.calendar 0
  refine ⟨?_, (Carries.served action).faithful alike.closed, ?_⟩
  · cases action with
    | store call =>
      show (first.catalog.perform first.now call).1 = (second.catalog.perform second.now call).1
      rw [← now]
      exact (StoreCall.Within.congr within alike.closed alike.agree).1
    | generate | pause => rfl
    | now => exact now
  · cases action with
    | store call =>
      refine ⟨StoreCall.Within.isClosed_perform within alike.closed, ?_, alike.later.calendar⟩
      show region.Agree (first.catalog.perform first.now call).2
        (second.catalog.perform second.now call).2
      rw [← now]
      exact StoreCall.Within.agree_perform within alike.closed alike.agree
    | generate | pause => exact alike
    | now => exact alike.later

end Site

namespace Amendment

variable {amendment : Amendment} {site last : Site} {calendar : Nat → Timestamp}

/-- In every run a request leaves all places outside its region as they were. -/
theorem stays_of_runs (room : amendment.HasRoom region) (closed : region.IsClosed site.catalog)
    {events : List (Event Call.Answer Site)} {outcome : Option (Result Version)}
    (run : Runs Request.disturbed amendment.request site events outcome last) :
    Site.Stays region site last := by
  have carried (call : Call) (before : Site) (answer : call.Answer) (after : Site)
      (within : call.Within region) (stayed : Site.Stays region site before)
      (answered : before.Answers call answer after) :
      call.Faithful region answer ∧ Site.Stays region site after :=
    ⟨answered.faithful stayed.closed, stayed.trans (answered.stays within stayed.closed)⟩
  exact (run.ends (fun _ _ => id) ((keepTo_request room).ensures carried
    (fun _ _ _ _ _ => False.elim) ⟨closed, fun _ _ => rfl⟩)).1

/-! ### Requests one after another -/

/-- The request carried out on a site that serves, with given readings of the calendar. -/
def served (amendment : Amendment) (calendar : Nat → Timestamp) (site : Site) :
    Result Version × Site :=
  amendment.request.run Site.perform (site.withCalendar calendar)

/-- The lock that the request asks for, if it asks for one, is free. -/
def IsUnhindered (amendment : Amendment) (arena : Arena) : Prop :=
  ∀ details, amendment.identifiers.resolve = .ok details → arena.IsFree details.resourceKey

theorem stays_of_served (room : amendment.HasRoom region) (closed : region.IsClosed site.catalog) :
    Site.Stays region site (amendment.served calendar site).2 := by
  obtain ⟨events, run⟩ := exists_runs_run Request.disturbed Site.perform
    (fun call site => site.answers_perform call) amendment.request (site.withCalendar calendar)
  have closedThen : region.IsClosed (site.withCalendar calendar).catalog := closed
  obtain ⟨closedAfter, outside⟩ := stays_of_runs room closedThen run
  exact ⟨closedAfter, outside⟩

/-- A request whose lock is free fares like its steps under the lock. -/
theorem served_eq {details : VersionDetails} (isFor : amendment.IsFor details)
    (free : site.arena.IsFree details.resourceKey) :
    ∃ arena, amendment.served calendar site =
      let done := (amendment.machine.locked details amendment.update amendment.options).run Site.act
        ((site.withCalendar calendar).later.withArena arena)
      (done.1, done.2.withArena (site.arena.visited details.resourceKey)) := by
  have freeThen : (site.withCalendar calendar).arena.IsFree details.resourceKey := free
  obtain ⟨arena, ran⟩ := Machine.run_amendVersion amendment.machine details amendment.update
    amendment.options freeThen
  refine ⟨arena, ?_⟩
  unfold served
  rw [isFor]
  exact ran

/-- Free locks are free after a request whose own lock was free. -/
theorem isFree_served (unhindered : amendment.IsUnhindered site.arena) {key : String}
    (free : site.arena.IsFree key) : (amendment.served calendar site).2.arena.IsFree key := by
  rcases amendment.rejected_or_isFor with ⟨error, rejected⟩ | ⟨details, named, isFor⟩
  · unfold served
    rw [rejected]
    exact free
  · obtain ⟨arena, ran⟩ := @served_eq _ site calendar _ isFor (unhindered details named)
    rw [ran]
    exact (unhindered details named).visited_of_free free

/-- What a request answers and leaves in its region depends on the documents there only. -/
theorem served_alike {first second : Site} (room : amendment.HasRoom region)
    (closed : region.IsClosed first.catalog) (agree : region.Agree first.catalog second.catalog)
    (unhindered : amendment.IsUnhindered first.arena)
    (again : amendment.IsUnhindered second.arena) :
    (amendment.served calendar first).1 = (amendment.served calendar second).1 ∧
      region.Agree (amendment.served calendar first).2.catalog
        (amendment.served calendar second).2.catalog := by
  rcases amendment.rejected_or_isFor with ⟨error, rejected⟩ | ⟨details, named, isFor⟩
  · unfold served
    rw [rejected]
    exact ⟨rfl, agree⟩
  · obtain ⟨one, ranFirst⟩ := @served_eq _ first calendar _ isFor (unhindered details named)
    obtain ⟨two, ranSecond⟩ := @served_eq _ second calendar _ isFor (again details named)
    have alike : Site.Alike region (first.withCalendar calendar) (second.withCalendar calendar) :=
      ⟨closed, agree, rfl⟩
    have keeps : Upholds (Action.Faithful region) (Action.Within region) _
        (amendment.machine.locked details amendment.update amendment.options) :=
      Machine.keepTo_locked (room details named)
    obtain ⟨same, still⟩ := keeps.run_related (fun _ _ _ within alike => alike.act within)
      (alike.later.withArena one two)
    rw [ranFirst, ranSecond]
    exact ⟨same, still.agree⟩

end Amendment

/-! ### What a request can reach -/

/-- The places that a version brings into play: its dataset, its edition, its slot, and the record
of the version that is stored there. -/
inductive VersionDetails.Covers (details : VersionDetails) (catalog : Catalog) : Place → Prop
  | dataset : Covers details catalog (.dataset details.datasetId)
  | edition : Covers details catalog (.edition (details.datasetId, details.edition))
  | version : Covers details catalog (.version details.slot)
  | record {stored : Version} : catalog.versions.get? details.slot = some stored →
    Covers details catalog (.record stored.id)

/-- The dataset that a place belongs to. Records belong to none. -/
def Place.datasetId? : Place → Option String
  | dataset id => some id
  | edition key => some key.1
  | version slot => some slot.datasetId
  | record _ => none

theorem VersionDetails.Covers.dataset_or_record {details : VersionDetails} {catalog : Catalog}
    {place : Place} (covers : details.Covers catalog place) :
    place.datasetId? = some details.datasetId ∨
      ∃ stored, catalog.versions.get? details.slot = some stored ∧ place = .record stored.id := by
  cases covers with
  | dataset | edition | version => exact .inl rfl
  | record found => exact .inr ⟨_, found, rfl⟩

namespace Amendment

variable {amendment first second : Amendment} {catalog : Catalog} {site : Site}

/-- The places that a request can reach: those of its version, if it names one. -/
def reach (amendment : Amendment) (catalog : Catalog) : Region :=
  fun place => ∃ details, amendment.identifiers.resolve = .ok details ∧ details.Covers catalog place

theorem hasRoom_reach (amendment : Amendment) (catalog : Catalog) :
    amendment.HasRoom (amendment.reach catalog) :=
  fun details named => ⟨⟨details, named, .dataset⟩, ⟨details, named, .edition⟩,
    ⟨details, named, .version⟩⟩

/-- In a well filed catalog a slot that can be reached has its version, and the record of that can
be reached, too. -/
theorem isClosed_reach (amendment : Amendment) (filed : catalog.WellFiled) :
    (amendment.reach catalog).IsClosed catalog := by
  rintro slot version ⟨details, named, covers⟩ found
  cases covers
  exact ⟨filed _ _ found, details, named, .record found⟩

/-- Two requests name different datasets, and their stored versions have different identifiers. -/
structure Apart (first second : Amendment) (catalog : Catalog) : Prop where
  datasets : first.identifiers.datasetId ≠ second.identifiers.datasetId
  ids : ∀ details other stored twin, first.identifiers.resolve = .ok details →
    second.identifiers.resolve = .ok other →
    catalog.versions.get? details.slot = some stored →
    catalog.versions.get? other.slot = some twin → stored.id ≠ twin.id

theorem Apart.symm (apart : first.Apart second catalog) : second.Apart first catalog :=
  ⟨apart.datasets.symm, fun details other stored twin named namedOther found foundOther =>
    (apart.ids other details twin stored namedOther named foundOther found).symm⟩

/-- Such requests can reach nothing in common. -/
theorem Apart.not_reach (apart : first.Apart second catalog) {place : Place}
    (reached : first.reach catalog place) : ¬second.reach catalog place := by
  rintro ⟨other, namedOther, coversOther⟩
  obtain ⟨details, named, covers⟩ := reached
  have datasets : details.datasetId ≠ other.datasetId := by
    obtain ⟨-, -, number, -, rfl⟩ := VersionIdentifiers.resolve_eq_ok_iff.mp named
    obtain ⟨-, -, number, -, rfl⟩ := VersionIdentifiers.resolve_eq_ok_iff.mp namedOther
    exact apart.datasets
  rcases covers.dataset_or_record with own | ⟨stored, found, rfl⟩ <;>
    rcases coversOther.dataset_or_record with ownOther | ⟨twin, foundOther, same⟩
  · exact datasets (Option.some_inj.mp (own.symm.trans ownOther))
  · subst same
    cases own
  · cases ownOther
  · exact apart.ids _ _ _ _ named namedOther found foundOther (Place.record.inj same)

/-- After a request that can reach nothing in common with it, a request fares as it would have fared
before, and leaves the rest as the first one left it. -/
theorem served_after {one two : Nat → Timestamp} (filed : site.catalog.WellFiled)
    (apart : first.Apart second site.catalog) (unhindered : first.IsUnhindered site.arena)
    (unhinderedToo : second.IsUnhindered site.arena) :
    let before := (first.served one site).2
    (second.served two site).1 = (second.served two before).1 ∧
      (second.reach site.catalog).Agree (second.served two site).2.catalog
        (second.served two before).2.catalog ∧
      ∀ place, ¬second.reach site.catalog place →
        (second.served two before).2.catalog.find? place = before.catalog.find? place := by
  intro before
  have stays : Site.Stays (first.reach site.catalog) site before :=
    stays_of_served (first.hasRoom_reach site.catalog) (first.isClosed_reach filed)
  have room := second.hasRoom_reach site.catalog
  have closed := second.isClosed_reach filed
  have agree : (second.reach site.catalog).Agree site.catalog before.catalog :=
    fun place reached => (stays.outside place (apart.symm.not_reach reached)).symm
  have free : second.IsUnhindered before.arena :=
    fun details named => isFree_served unhindered (unhinderedToo details named)
  obtain ⟨same, alike⟩ := served_alike room closed agree unhinderedToo free
  exact ⟨same, alike, (stays_of_served room (closed.congr agree)).outside⟩

/-- In a well filed catalog no request changes anything but its dataset, its edition, its version
and the record of that, whatever goes wrong. Requests for different datasets, whose versions have
different identifiers, have the same results and leave the same documents in either order. -/
theorem requests_are_independent (filed : site.catalog.WellFiled) :
    (∀ (amendment : Amendment) (details : VersionDetails) (last : Site)
        (events : List (Event Call.Answer Site)) (outcome : Option (Result Version)),
      amendment.identifiers.resolve = .ok details →
      Runs Request.disturbed amendment.request site events outcome last →
        ∀ place, ¬details.Covers site.catalog place →
          last.catalog.find? place = site.catalog.find? place) ∧
    ∀ (first second : Amendment) (one two : Nat → Timestamp), first.Apart second site.catalog →
      first.IsUnhindered site.arena → second.IsUnhindered site.arena →
        let firstDone := first.served one site
        let secondAfter := second.served two firstDone.2
        let secondDone := second.served two site
        let firstAfter := first.served one secondDone.2
        firstDone.1 = firstAfter.1 ∧ secondDone.1 = secondAfter.1 ∧
          ∀ place, secondAfter.2.catalog.find? place = firstAfter.2.catalog.find? place := by
  constructor
  · intro amendment details last events outcome named run place uncovered
    have stays := stays_of_runs (amendment.hasRoom_reach site.catalog)
      (amendment.isClosed_reach filed) run
    refine stays.outside place ?_
    rintro ⟨other, namedOther, covers⟩
    obtain rfl := Except.ok.inj (named.symm.trans namedOther)
    exact uncovered covers
  · intro first second one two apart unhindered unhinderedToo firstDone secondAfter secondDone
      firstAfter
    obtain ⟨sameSecond, agreeSecond, restSecond⟩ :=
      served_after filed apart unhindered unhinderedToo
    obtain ⟨sameFirst, agreeFirst, restFirst⟩ :=
      served_after filed apart.symm unhinderedToo unhindered
    have staysFirst : Site.Stays (first.reach site.catalog) site firstDone.2 :=
      stays_of_served (first.hasRoom_reach site.catalog) (first.isClosed_reach filed)
    have staysSecond : Site.Stays (second.reach site.catalog) site secondDone.2 :=
      stays_of_served (second.hasRoom_reach site.catalog) (second.isClosed_reach filed)
    refine ⟨sameFirst, sameSecond, fun place => ?_⟩
    by_cases reached : second.reach site.catalog place
    · calc secondAfter.2.catalog.find? place
          = secondDone.2.catalog.find? place := (agreeSecond place reached).symm
        _ = firstAfter.2.catalog.find? place :=
          (restFirst place (apart.symm.not_reach reached)).symm
    · by_cases reachedFirst : first.reach site.catalog place
      · calc secondAfter.2.catalog.find? place
            = firstDone.2.catalog.find? place := restSecond place reached
          _ = firstAfter.2.catalog.find? place := agreeFirst place reachedFirst
      · calc secondAfter.2.catalog.find? place
            = firstDone.2.catalog.find? place := restSecond place reached
          _ = site.catalog.find? place := staysFirst.outside place reachedFirst
          _ = secondDone.2.catalog.find? place := (staysSecond.outside place reached).symm
          _ = firstAfter.2.catalog.find? place := (restFirst place reachedFirst).symm

/-- Two datasets each have a version published. Both succeed, in either order. -/
theorem requests_are_independent_sample :
    let site := Site.sample.make [
      .dataset "cpih02" { id := "cpih02", next := some { id := "cpih02", type := "filterable" } },
      .edition ("cpih02", "time-series") { id := "time-series" },
      .record "import-2" { id := "import-2", state := some .associated },
      .version ⟨"cpih02", "time-series", 1⟩ {
        id := "import-2", datasetId := "cpih02", edition := "time-series", number := 1
        type := "filterable", state := some .associated, releaseDate := "2024-01-17"
        links := some { version := some ⟨"1", "/versions/1"⟩ } }]
    let publishes (dataset : String) : Amendment :=
      ⟨{}, ⟨dataset, "time-series", "1"⟩, { state := some .published }, { hasDownloads := true }⟩
    let first := publishes "cpih01"
    let second := publishes "cpih02"
    let calendar : Nat → Timestamp := fun _ => .sample
    let firstDone := first.served calendar site
    let secondAfter := second.served calendar firstDone.2
    let secondDone := second.served calendar site
    let firstAfter := first.served calendar secondDone.2
    site.catalog.WellFiled ∧ first.Apart second site.catalog ∧ first.IsUnhindered site.arena ∧
      second.IsUnhindered site.arena ∧
      (∃ events, Runs Request.disturbed first.request site events (some firstDone.1) firstDone.2) ∧
      (∀ place, ¬VersionDetails.Covers ⟨"cpih01", "time-series", 1⟩ site.catalog place →
        firstDone.2.catalog.find? place = site.catalog.find? place) ∧
      (firstDone.1 = firstAfter.1 ∧ secondDone.1 = secondAfter.1 ∧
        ∀ place, secondAfter.2.catalog.find? place = firstAfter.2.catalog.find? place) ∧
      firstDone.1.toOption.map (·.id) = some "import-1" ∧
      secondDone.1.toOption.map (·.id) = some "import-2" := by
  intro site publishes first second calendar firstDone secondAfter secondDone firstAfter
  have filed : site.catalog.WellFiled := by
    refine Site.wellFiled_sample.writeAll fun change member => ?_
    simp only [List.mem_cons, List.not_mem_nil, or_false] at member
    rcases member with rfl | rfl | rfl | rfl <;> trivial
  have firstNamed : first.identifiers.resolve = .ok ⟨"cpih01", "time-series", 1⟩ := by decide
  have secondNamed : second.identifiers.resolve = .ok ⟨"cpih02", "time-series", 1⟩ := by decide
  have firstId : (site.catalog.versions.get? ⟨"cpih01", "time-series", 1⟩).map (·.id) =
      some "import-1" := by decide
  have secondId : (site.catalog.versions.get? ⟨"cpih02", "time-series", 1⟩).map (·.id) =
      some "import-2" := by decide
  have apart : first.Apart second site.catalog := by
    refine ⟨by decide, fun details other stored twin named namedOther found foundOther => ?_⟩
    obtain rfl := Except.ok.inj (firstNamed.symm.trans named)
    obtain rfl := Except.ok.inj (secondNamed.symm.trans namedOther)
    have id : stored.id = "import-1" :=
      Option.some_inj.mp ((congrArg _ found).symm.trans firstId)
    have idOther : twin.id = "import-2" :=
      Option.some_inj.mp ((congrArg _ foundOther).symm.trans secondId)
    rw [id, idOther]
    decide
  obtain ⟨events, run⟩ := exists_runs_run Request.disturbed Site.perform
    (fun call site => site.answers_perform call) first.request site
  have free : ∀ key, site.arena.IsFree key := Arena.isFree_new
  have frame := (requests_are_independent filed).1 first ⟨"cpih01", "time-series", 1⟩ _ _ _
    firstNamed run
  exact ⟨filed, apart, fun _ _ => free _, fun _ _ => free _, ⟨events, run⟩, frame,
    (requests_are_independent filed).2 first second calendar calendar apart (fun _ _ => free _)
      (fun _ _ => free _), by decide +kernel, by decide +kernel⟩

end Amendment

end ReleaseCatalog
