/-
The records of instances through the life of the versions. Versions are added to a site and amended
there, one request after another, while calls on the store and on generators fail at any moment.
However a request ends, the version and the record of its instance were written together or not at
all; and an instance is marked only after its version was written as published, so that the mark
tells the state that the version has.

A request with a deadline can be given up between the two, and is left out.
-/

import ReleaseCatalog.Proofs.Concurrency.Stages
import ReleaseCatalog.Proofs.Store.Mirroring
import ReleaseCatalog.Proofs.Workflow.Failures

namespace ReleaseCatalog

/-! ### What holds when requests have come to their end -/

/-- The catalog is as required if the program has come to its end. -/
def Site.Ends (kept : Catalog → Prop) {α : Type} (outcome : Option α) (last : Site) : Prop :=
  outcome.isSome = true → kept last.catalog

/-- A call that has nothing to write leaves the catalog as it was. -/
theorem Site.Answers.catalog_eq {site after : Site} {call : Call} {answer : call.Answer}
    (answered : site.Answers call answer after) (silent : site.callWrites call = []) :
    after.catalog = site.catalog := by
  obtain ⟨writes, begun, catalog, -⟩ := answered.made
  rw [silent] at begun
  rw [catalog, List.prefix_nil.mp begun, Catalog.writeAll_nil]

namespace Steps

open Program

variable {α β : Type} {kept : Catalog → Prop} {site : Site}

/-- What every action that may be taken keeps is kept by steps that take such actions only. -/
theorem Take.ends {fine : Action → Prop} {steps : Steps α} (take : steps.Take fine)
    (keeps : ∀ action (site : Site), fine action → kept site.catalog →
      kept (site.act action).2.catalog)
    (here : kept site.catalog) : Ensures disturbed (Site.Ends kept) steps site := by
  induction steps generalizing site with
  | done result => exact fun _ => here
  | step action next inductionHypothesis =>
    refine ⟨nofun, fun _ _ => nofun, fun answer after carried => ?_⟩
    refine inductionHypothesis answer (take.2 answer trivial) ?_
    cases carried with
    | served => exact keeps action site take.1 here
    | failed | generated => exact here

/-- Steps that begin by reading end as required if they go on so with what was read. -/
theorem ends_read_andThen {call : StoreCall} {next : call.Value → Steps (Result β)}
    (reads : ∀ now catalog, call.writes now catalog = []) (here : kept site.catalog)
    (two : ∀ value calendar, (site.catalog.perform site.now call).1 = .ok value →
      Ensures disturbed (Site.Ends kept) (next value) (site.withCalendar calendar)) :
    Ensures disturbed (Site.Ends kept) ((store call).andThen next) site := by
  refine ensures_store_andThen (fun _ _ => nofun) (fun _ _ _ => here) ?_
  intro value calendar answered
  rw [reads, Site.make_nil]
  exact two value calendar answered

end Steps

/-- A request without a deadline ends as its steps under the lock do. -/
theorem Amendment.ends_request {amendment : Amendment}
    (unhurried : amendment.machine.deadline = none) {kept : Catalog → Prop} {site : Site}
    (here : kept site.catalog)
    (steps : ∀ details (other : Site), other.catalog = site.catalog →
      Program.Ensures Steps.disturbed (Site.Ends kept)
        (amendment.machine.locked details amendment.update amendment.options) other) :
    Program.Ensures Request.disturbed (Site.Ends kept) amendment.request site := by
  cases named : amendment.identifiers.resolve with
  | error error =>
    unfold request Machine.amend
    rw [named]
    exact fun _ => here
  | ok details =>
    rcases request_eq named unhurried with ⟨error, rejected⟩ | ⟨-, looks⟩
    · rw [rejected]
      exact fun _ => here
    · rw [looks]
      refine ⟨nofun, nofun, fun type middle answered => ⟨nofun, nofun, ?_⟩⟩
      intro attempt after asked
      have unchanged : after.catalog = site.catalog :=
        (asked.catalog_eq rfl).trans (answered.catalog_eq rfl)
      match attempt with
      | .error error => exact fun _ => unchanged ▸ here
      | .ok token =>
        refine Program.Ensures.bind ((Request.ensures_ofSteps Request.relays_disturbed
          (steps details after unchanged)).mono fun outcome last ends => ?_)
        match outcome with
        | none => exact nofun
        | some result =>
          refine ⟨nofun, nofun, fun _ final released _ => ?_⟩
          rw [released.catalog_eq rfl]
          exact ends rfl

/-! ### One move -/

namespace Catalog

/-- In the later catalog the records follow the versions, and every instance that was published in
the first is published still. -/
structure LeadsTo (start : Catalog) (names : List String) (catalog : Catalog) : Prop where
  mirrors : catalog.Mirrors names
  stays : start.StaysPublished catalog

/-- Besides, a version stands in the slot by this name and in this state. -/
structure MovesTo (start : Catalog) (names : List String) (slot : VersionKey) (id : String)
    (state : Option State) (catalog : Catalog) : Prop extends start.LeadsTo names catalog where
  stands : ∃ stored, catalog.versions.get? slot = some stored ∧ stored.id = id ∧
    stored.state = state

namespace MovesTo

variable {names : List String} {start catalog : Catalog} {slot : VersionKey} {id : String}
  {state : Option State}

/-- Datasets and editions do not matter. -/
theorem of_same (moved : start.MovesTo names slot id state catalog) {other : Catalog}
    (versions : other.versions = catalog.versions)
    (instances : other.instances = catalog.instances) :
    start.MovesTo names slot id state other where
  mirrors := moved.mirrors.of_same versions instances
  stays := fun name record found published => instances ▸ moved.stays name record found published
  stands := versions ▸ moved.stands

/-- The instance of the version may be marked when the version is published. -/
theorem publishInstance (moved : start.MovesTo names slot id state catalog)
    (published : state = some .published) :
    start.MovesTo names slot id state (catalog.publishInstance id).2 := by
  obtain ⟨stored, found, rfl, rfl⟩ := moved.stands
  exact {
    mirrors := moved.mirrors.publishInstance found published
    stays := moved.stays.trans (.publishInstance stored.id)
    stands := ⟨stored, (catalog.versions_publishInstance _).symm ▸ found, rfl, rfl⟩ }

end MovesTo

end Catalog

/-- Of what a handler does for the parents only the mark touches versions or records, and it is set
for published versions. -/
theorem Handler.MayTake.movesTo {context : TransitionContext} {persisted : Version}
    {handler : Handler} {action : Action} (may : handler.MayTake context persisted action)
    {names : List String} {start : Catalog} {slot : VersionKey} {state : Option State}
    (release : handler = published → state = some .published) {site : Site}
    (moved : start.MovesTo names slot persisted.id state site.catalog) :
    start.MovesTo names slot persisted.id state (site.act action).2.catalog := by
  cases may with
  | readEdition | readType | generate | now => exact moved
  | promoteEdition | promoteDataset => exact moved.of_same rfl rfl
  | publishInstance => exact moved.publishInstance (release rfl)
  | associate =>
    change start.MovesTo names slot persisted.id state (site.catalog.associate site.now _ _ _).2
    unfold Catalog.associate
    split
    · exact moved
    · exact moved.of_same rfl rfl

/-- Publication is the handler of the published state only. -/
theorem Handler.eq_published_of_default {target : State}
    (release : Handler.default target = published) : target = .published := by
  cases target <;> first | rfl | cases release

namespace TransitionContext

open Program

variable {context : TransitionContext} {site : Site} {names : List String}

/-- When the candidate has been written its version stands in the slot, and agrees with the
record. -/
theorem movesTo_writeAll_candidateWrites (tells : context.Tells site.catalog)
    (mirrors : site.catalog.Mirrors names) (now : Timestamp) :
    site.catalog.MovesTo names context.details.slot context.candidate.id context.candidate.state
      (site.catalog.writeAll (context.candidateWrites site.catalog
        (.forStatic context.candidate.isStatic) now)) := by
  let stored := Version.stamp now context.current context.candidate
  have grown : Version.Grows [context.update] context.current stored := by
    show Version.Grows _ _ (Version.stamp now context.current context.candidate)
    rw [tells.candidate]
    exact Version.grows_stamp_combine now context.current context.update
  have named : context.candidate.id = context.current.id := by rw [tells.candidate]; rfl
  exact {
    mirrors := mirrors.writeAll_versionWrites tells.version grown.id grown.isStatic
      ((Version.key_stamp _ _ _).trans tells.filed)
    stays := .versionWrites _ _ stored
    stands := by
      refine ⟨stored, ?_, grown.id.trans named.symm, rfl⟩
      show (site.catalog.writeAll (site.catalog.versionWrites _ _ _)).versions.get? _ = _
      rw [Catalog.writeAll_versionWrites]
      exact Collection.get?_put_self .. }

/-- Whatever fails on the way, a move with its default handler keeps the records with the
versions. -/
theorem ends_steps {target : State} (tells : context.Tells site.catalog)
    (mirrors : site.catalog.Mirrors names) (valid : context.candidate.validate = .ok ())
    (state : context.candidate.state = some target) :
    Ensures Steps.disturbed (Site.Ends (site.catalog.LeadsTo names))
      ((Handler.default target).steps context) site := by
  have here : site.catalog.LeadsTo names site.catalog := ⟨mirrors, .refl _⟩
  rw [Handler.steps_eq context _ valid]
  refine Steps.ensures_require (fun _ _ => here) fun type resolved => ?_
  rw [isStatic_of_type resolved]
  refine Ensures.bind ((ensures_persist tells _).mono ?_)
  rintro outcome last ⟨follows, failed⟩
  match outcome with
  | none => exact nofun
  | some (.error error) =>
    intro _
    rw [(failed error rfl).catalog]
    exact here
  | some (.ok persisted) =>
    obtain ⟨now, writes, made, -, whole⟩ := follows
    obtain ⟨rfl, tag, rfl⟩ := whole persisted rfl
    have moved : site.catalog.MovesTo names context.details.slot context.candidate.id
        context.candidate.state last.catalog := by
      rw [made.catalog]
      exact movesTo_writeAll_candidateWrites tells mirrors now
    refine Ensures.mono ((Handler.take_afterwards context _ type _).ends
      (fun action site may => may.movesTo fun release => ?_) moved) fun outcome last ends ended =>
        (ends ended).toLeadsTo
    rw [state, Handler.eq_published_of_default release]

end TransitionContext

/-! ### One request -/

namespace Machine

open Program

variable {machine : Machine} {site : Site} {names : List String}

/-- Whatever fails on the way, the steps under the lock keep the records with the versions. -/
theorem ends_locked (standard : machine.handlers = {}) (details : VersionDetails)
    (update : Version) (options : AmendOptions) (mirrors : site.catalog.Mirrors names) :
    Ensures Steps.disturbed (Site.Ends (site.catalog.LeadsTo names))
      (machine.locked details update options) site := by
  have here : site.catalog.LeadsTo names site.catalog := ⟨mirrors, .refl _⟩
  refine Steps.ends_read_andThen (fun _ _ => rfl) here fun dataset first readDataset => ?_
  refine Steps.ends_read_andThen (fun _ _ => rfl) here fun _ second _ => ?_
  refine Steps.ends_read_andThen (fun _ _ => rfl) here fun current third readVersion => ?_
  have found : site.catalog.versions.get? details.slot = some current :=
    (Catalog.getVersion_eq_ok_iff.mp readVersion).1
  have tells : (machine.context details update options dataset current).Tells site.catalog :=
    ⟨found, mirrors.filed _ _ found, Catalog.getDataset_eq_ok_iff.mp readDataset, rfl⟩
  refine Steps.ensures_require (fun _ _ => here) fun checked passed => ?_
  obtain ⟨valid, target, type, state, -⟩ := TransitionContext.checkMove_eq_ok_iff.mp passed
  simp only [state, standard]
  let after := ((site.withCalendar first).withCalendar second).withCalendar third
  exact @TransitionContext.ends_steps _ after names target tells mirrors valid state

end Machine

/-- A request that has come to its end has kept the records with the versions. -/
theorem Amendment.keeps_of_runs {amendment : Amendment} (standard : amendment.machine.handlers = {})
    (unhurried : amendment.machine.deadline = none) {site last : Site} {names : List String}
    {events : List (Program.Event Call.Answer Site)} {result : Result Version}
    (mirrors : site.catalog.Mirrors names)
    (run : Program.Runs Request.disturbed amendment.request site events (some result) last) :
    site.catalog.LeadsTo names last.catalog := by
  refine run.ends (fun _ _ => id) (ends_request unhurried ⟨mirrors, .refl _⟩ ?_) rfl
  intro details other same
  rw [← same] at mirrors ⊢
  exact Machine.ends_locked standard details _ _ mirrors

/-! ### Any number of requests -/

/-- A request to add a version or to amend one. -/
inductive VersionRequest where
  | add (version : Version)
  | amend (amendment : Amendment)

/-- The names of the versions that are to be added. -/
def VersionRequest.added (requests : List VersionRequest) : List String :=
  requests.filterMap fun
    | add version => some version.id
    | amend _ => none

/-- One request after the other has come to its end at a disturbed site, with nobody else there. -/
inductive Site.Undergoes : Site → List VersionRequest → Site → Prop
  | nothing (site : Site) : Undergoes site [] site
  | add {site middle last : Site} {version : Version} {answer : Result String}
      {rest : List VersionRequest} :
    site.Carries (.store (.addVersion version)) answer middle → Undergoes middle rest last →
      Undergoes site (.add version :: rest) last
  | amend {site middle last : Site} {amendment : Amendment} {result : Result Version}
      {events : List (Program.Event Call.Answer Site)} {rest : List VersionRequest} :
    Program.Runs Request.disturbed amendment.request site events (some result) middle →
      Undergoes middle rest last → Undergoes site (.amend amendment :: rest) last

namespace Site

/-- A version that is added, or not, keeps the records with the versions. -/
theorem Carries.keeps_addVersion {site after : Site} {version : Version} {answer : Result String}
    (carried : site.Carries (.store (.addVersion version)) answer after) {names : List String}
    (mirrors : site.catalog.Mirrors names) (unlisted : version.id ∉ names) :
    site.catalog.LeadsTo (version.id :: names) after.catalog := by
  cases carried with
  | served =>
    exact ⟨mirrors.addVersion unlisted site.now,
      .addVersion (mirrors.get?_instances_eq_none unlisted) site.now⟩
  | failed => exact ⟨mirrors.mono (List.subset_cons_self _ _), .refl _⟩

/-- The requests keep the records with the versions, if no name is used twice. -/
theorem Undergoes.keeps {site last : Site} {requests : List VersionRequest}
    (done : site.Undergoes requests last)
    (standard : ∀ amendment, .amend amendment ∈ requests →
      amendment.machine.handlers = {} ∧ amendment.machine.deadline = none)
    {names : List String} (mirrors : site.catalog.Mirrors names)
    (distinct : (VersionRequest.added requests ++ names).Nodup) :
    site.catalog.LeadsTo (VersionRequest.added requests ++ names) last.catalog := by
  induction done generalizing names with
  | nothing site => exact ⟨mirrors, .refl _⟩
  | @add site middle last version _ rest carried _ inductionHypothesis =>
    obtain ⟨unlisted, -⟩ := List.nodup_cons.mp distinct
    have kept := carried.keeps_addVersion mirrors fun listed =>
      unlisted (List.mem_append_right _ listed)
    have later := inductionHypothesis
      (fun amendment member => standard amendment (List.mem_cons_of_mem _ member)) kept.mirrors
      (List.perm_middle.nodup_iff.mpr distinct)
    exact ⟨later.mirrors.mono List.perm_middle.subset, kept.stays.trans later.stays⟩
  | amend run _ inductionHypothesis =>
    obtain ⟨default, unhurried⟩ := standard _ List.mem_cons_self
    have kept := Amendment.keeps_of_runs default unhurried mirrors run
    have later := inductionHypothesis
      (fun amendment member => standard amendment (List.mem_cons_of_mem _ member)) kept.mirrors
      distinct
    exact ⟨later.mirrors, kept.stays.trans later.stays⟩

/-- Instances mirror their versions. Versions with different names are added to a site that had
neither versions nor records, and amended there with the default handlers and without a deadline;
any call on the store may fail, generators may answer anything, and locks may be refused. After any
number of these requests every version that has an instance has a record under its name with the
state of the version, and no static version has a record. An instance that was published after some
of the requests is published after all that follow them. -/
theorem Undergoes.instances_mirror_versions {start middle last : Site}
    {earlier later : List VersionRequest}
    (noVersions : ∀ slot, start.catalog.versions.get? slot = none)
    (noRecords : ∀ id, start.catalog.instances.get? id = none)
    (standard : ∀ amendment, .amend amendment ∈ earlier ++ later →
      amendment.machine.handlers = {} ∧ amendment.machine.deadline = none)
    (distinct : (VersionRequest.added (earlier ++ later)).Nodup)
    (begun : start.Undergoes earlier middle) (done : middle.Undergoes later last) :
    (∀ slot version, last.catalog.versions.get? slot = some version →
      (version.hasInstance = true →
        ∃ record, last.catalog.instances.get? version.id = some record ∧
          record.state = version.state) ∧
      (version.isStatic = true → last.catalog.instances.get? version.id = none)) ∧
    ∀ id record, middle.catalog.instances.get? id = some record → record.isPublished = true →
      ∃ current, last.catalog.instances.get? id = some current ∧ current.isPublished = true := by
  have apart : (VersionRequest.added earlier ++ VersionRequest.added later).Nodup := by
    rwa [VersionRequest.added, List.filterMap_append] at distinct
  have alone : (VersionRequest.added earlier ++ []).Nodup := by
    rw [List.append_nil]
    exact (List.nodup_append.mp apart).1
  have first := begun.keeps
    (fun amendment member => standard amendment (List.mem_append_left _ member))
    (.of_none noVersions noRecords) alone
  rw [List.append_nil] at first
  have second := done.keeps
    (fun amendment member => standard amendment (List.mem_append_right _ member))
    first.mirrors (List.perm_append_comm.nodup_iff.mp apart)
  exact ⟨fun slot version found =>
    ⟨(second.mirrors.agrees found).backed, (second.mirrors.agrees found).bare⟩, second.stays⟩

/-- A version is added and published, and published once more while its edition cannot be
written. -/
theorem Undergoes.instances_mirror_versions_sample :
    let start : Site := { catalog := Catalog.writeAll {} [
      .dataset "cpih01" { id := "cpih01", next := some { id := "cpih01", type := "filterable" } },
      .edition ("cpih01", "time-series") { id := "time-series" }] }
    let version : Version := {
      id := "import-1", datasetId := "cpih01", edition := "time-series", number := 1
      type := "filterable", state := some .associated, releaseDate := "2024-01-17"
      links := some { version := some ⟨"1", "/versions/1"⟩ } }
    let publish : Amendment :=
      ⟨{}, ⟨"cpih01", "time-series", "1"⟩, { state := some .published }, {}⟩
    let interrupted := Site.performExcept fun call => call.method = .upsertEdition
    let middle := (publish.request.run perform (start.act (.store (.addVersion version))).2).2
    let last := (publish.request.run interrupted middle).2
    let earlier : List VersionRequest := [.add version, .amend publish]
    (∀ slot, start.catalog.versions.get? slot = none) ∧
    (∀ id, start.catalog.instances.get? id = none) ∧
    (∀ amendment : Amendment, .amend amendment ∈ earlier ++ [.amend publish] →
      amendment.machine.handlers = {} ∧ amendment.machine.deadline = none) ∧
    (VersionRequest.added (earlier ++ [.amend publish])).Nodup ∧
    start.Undergoes earlier middle ∧ middle.Undergoes [.amend publish] last ∧
    (∀ slot version, last.catalog.versions.get? slot = some version →
      (version.hasInstance = true →
        ∃ record, last.catalog.instances.get? version.id = some record ∧
          record.state = version.state) ∧
      (version.isStatic = true → last.catalog.instances.get? version.id = none)) ∧
    (middle.catalog.instances.get? "import-1").map (·.isPublished) = some true ∧
    ∃ current, last.catalog.instances.get? "import-1" = some current ∧
      current.isPublished = true := by
  intro start version publish interrupted middle last earlier
  have standard (amendment : Amendment) (member : .amend amendment ∈ earlier ++ [.amend publish]) :
      amendment.machine.handlers = {} ∧ amendment.machine.deadline = none := by
    have same : amendment = publish := by simpa [earlier] using member
    rw [same]
    exact ⟨rfl, rfl⟩
  have distinct : (VersionRequest.added (earlier ++ [.amend publish])).Nodup := by decide
  have allowed := Site.answers_performExcept fun call => call.method = .upsertEdition
  obtain ⟨_, published⟩ := Program.exists_runs_run Request.disturbed perform
    (fun call site => site.answers_perform call) publish.request
    (start.act (.store (.addVersion version))).2
  obtain ⟨_, again⟩ := Program.exists_runs_run Request.disturbed interrupted
    (fun call site => allowed site call) publish.request middle
  have begun : start.Undergoes earlier middle :=
    .add (.served (.store (.addVersion version))) (.amend published (.nothing middle))
  have done : middle.Undergoes [.amend publish] last := .amend again (.nothing last)
  have marked : (middle.catalog.instances.get? "import-1").map (·.isPublished) = some true := by
    decide +kernel
  obtain ⟨mirrored, stays⟩ := Undergoes.instances_mirror_versions (fun _ => rfl) (fun _ => rfl)
    standard distinct begun done
  obtain ⟨record, found, isPublished⟩ := Option.map_eq_some_iff.mp marked
  exact ⟨fun _ => rfl, fun _ => rfl, standard, distinct, begun, done, mirrored, marked,
    stays "import-1" record found isPublished⟩

end Site

end ReleaseCatalog
