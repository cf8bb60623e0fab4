/-
What a request that succeeds answers is what it has stored. The store dates and tags the document
itself, over the one that it finds in the slot, and the request only learns the tag; still the
answer differs from the stored document in its date alone, so that the caller may go on with it: its
tag is the one that the next request has to select.

Others may go on meanwhile, as long as they leave the version alone. A request among such others
has the slot of the version in custody, also before and after it has the lock; so the statement
follows from what a request in custody answers and writes.
-/

import ReleaseCatalog.Proofs.Workflow.CompareAndSwap
import ReleaseCatalog.Proofs.Workflow.Custody
import ReleaseCatalog.Proofs.Workflow.Gate

namespace ReleaseCatalog

open Program (Ensures Event Runs)

/-- Requests on a disturbed site, with others there who leave the content of a slot as it is. -/
def Request.besides (slot : VersionKey) : Program.Setting Call.Answer Site where
  answers call site answer after := site.Answers call answer after
  outside site after := site.Interferes after ∧
    after.catalog.versions.get? slot = site.catalog.versions.get? slot

/-! ### Custody among others -/

namespace Site

variable {site after : Site} {slot : VersionKey} {found : Option Version} {entries : List Entry}

/-- At first a slot shows what was found in it. -/
theorem shows_nil (filed : site.catalog.WellFiled) (slot : VersionKey) :
    site.Shows slot (site.catalog.versions.get? slot) [] :=
  ⟨filed, rfl⟩

/-- What a call writes can be entered, and then the slot shows what it shows with the entries. -/
theorem Answers.exists_adds {call : Call} {answer : call.Answer}
    (answered : site.Answers call answer after) (shows : site.Shows slot found entries) :
    ∃ more, site.Adds entries after more ∧ after.Shows slot found more := by
  obtain ⟨writes, -, catalog, journal⟩ := answered.made
  refine ⟨_, ⟨writes, journal, rfl⟩, answered.wellFiled shows.filed, ?_⟩
  rw [catalog, Catalog.content_writeAll, shows.content, Entry.documents_append,
    Entry.documents_ofWrites, Write.contentAfter_append]

end Site

/-- A run among others who leave a slot alone is one in custody of the slot. -/
theorem Request.exists_runs_inCustody {α : Type} {request : Request α} {site last : Site}
    {events : List (Event Call.Answer Site)} {outcome : Option α} {slot : VersionKey}
    {found : Option Version} {entries : List Entry}
    (run : Runs (Request.besides slot) request site events outcome last)
    (shows : site.Shows slot found entries) :
    ∃ made kept, Runs (Request.disturbed.inCustody slot found) request entries made outcome kept ∧
      last.Shows slot found kept := by
  induction run generalizing entries with
  | done result => exact ⟨[], entries, .done result entries, shows⟩
  | stop call next => exact ⟨[], entries, .stop call next entries, shows⟩
  | givenUp _ given => exact given.elim
  | outside changed _ inductionHypothesis =>
    exact inductionHypothesis
      ⟨changed.1.wellFiled shows.filed, changed.2.trans shows.content⟩
  | step answered _ inductionHypothesis =>
    obtain ⟨more, adds, showsMore⟩ := answered.exists_adds shows
    obtain ⟨made, kept, run, showsKept⟩ := inductionHypothesis showsMore
    exact ⟨_, kept, .step ⟨_, _, shows, answered, adds⟩ run, showsKept⟩

/-! ### Requests in custody -/

namespace Machine

variable {machine : Machine} {identifiers : VersionIdentifiers} {details : VersionDetails}
  {update version : Version} {options : AmendOptions} {site last : Site}
  {events : List (Event Call.Answer Site)} {found : Option Version}

theorem conforms_nil {outcome : Option (Result Version)}
    (unsuccessful : ∀ version, outcome ≠ some (.ok version)) :
    machine.Conforms details update outcome [] :=
  ⟨orderly_nil, fun version same => absurd same (unsuccessful version)⟩

/-- Looking up the kind of lock makes no entry. -/
theorem ensures_lockKind_inCustody :
    Ensures (Steps.disturbed.inCustody details.slot found) (fun _ entries => entries = [])
      (lockKind details) [] := by
  have looks : Program.Upholds (fun _ _ => True)
      (· = .store (.getDatasetType details.datasetId true)) (fun _ => True)
      (lockKind details) := by
    refine ⟨rfl, fun answer _ => ?_⟩
    match answer with
    | .ok type => trivial
    | .error error => trivial
  have enter (action : Action) (site : Site) (entries : List Entry) (writes : List Write)
      (reads : action = .store (.getDatasetType details.datasetId true)) (none : entries = [])
      (begun : writes <+: site.writes action) : entries ++ Entry.ofWrites site writes = [] := by
    subst reads none
    rw [List.prefix_nil.mp begun]
    rfl
  exact (Steps.ensures_of_upholds looks enter rfl).mono fun _ _ ends => ends.1

/-- A request as a whole makes its entries as its steps under the lock do. -/
theorem ensures_amendVersion_inCustody :
    Ensures (Request.disturbed.inCustody details.slot found) (machine.Conforms details update)
      (machine.amendVersion details update options) [] := by
  refine Ensures.bind ((Request.ensures_ofSteps Request.relays_disturbed.inCustody
    ensures_lockKind_inCustody).mono ?_)
  rintro outcome _ rfl
  match outcome with
  | none => exact conforms_nil (by simp)
  | some kind =>
    refine Request.ensures_call_bind_inCustody (fun _ => rfl) (conforms_nil (by simp)) ?_
    rintro (error | token)
    · exact conforms_nil (by simp)
    · refine Ensures.bind (ensures_lockedInTime_inCustody.mono fun outcome entries conforms => ?_)
      match outcome with
      | none => exact conforms
      | some result =>
        exact Request.ensures_call_bind_inCustody (fun _ => rfl)
          ⟨conforms.orderly, fun _ => nofun⟩ fun _ => conforms

/-- A request for a version makes its entries in custody of its slot. -/
theorem ensures_amend_inCustody (named : identifiers.resolve = .ok details) :
    Ensures (Request.disturbed.inCustody details.slot found) (machine.Conforms details update)
      (machine.amend identifiers update options) [] := by
  unfold amend
  simp only [named]
  by_cases unknown : update.type ≠ "" ∧ DatasetType.resolve? update.type = none
  · rw [if_pos unknown]
    exact conforms_nil (by simp)
  · rw [if_neg unknown]
    exact ensures_amendVersion_inCustody

/-- What is answered is what is stored. Calls may have failed on the way, the version may have been
written at the second attempt, and others may have done anything that leaves it alone. The stored
version is the answer but for its date; both have the tag that the content has; and whoever selects
this tag next meets the version. -/
theorem amend_answers_stored (named : identifiers.resolve = .ok details)
    (filed : site.catalog.WellFiled)
    (run : Runs (Request.besides details.slot) (machine.amend identifiers update options) site
      events (some (.ok version)) last) :
    ∃ stored, last.catalog.getVersion details.slot ETag.any = .ok stored ∧
      version = { stored with lastUpdated := version.lastUpdated } ∧
      version.eTag = stored.eTag ∧ version.eTag = stored.hash ∧
      ∀ next : Amendment, next.identifiers.resolve = .ok details →
        next.options.ifMatch = version.eTag →
        Amendment.Condition.selector.Holds next last.catalog := by
  obtain ⟨made, entries, custody, shows⟩ :=
    Request.exists_runs_inCustody run (Site.shows_nil filed details.slot)
  have conforms : machine.Conforms details update (some (.ok version)) entries :=
    custody.ends (fun _ _ => id) (ensures_amend_inCustody named)
  obtain ⟨stored, put, same⟩ := conforms.written version rfl
  have content : last.catalog.versions.get? details.slot = some stored := by
    rw [shows.content, put]
    rfl
  obtain ⟨-, _, -, -, _, replaces⟩ :=
    conforms.orderly.exists_replaces (put ▸ List.mem_singleton.mpr rfl)
  have tag : version.eTag = stored.eTag := by
    rw [same]
  have hash : stored.eTag = stored.hash := by
    rw [replaces.made]
    exact Version.stamp_eTag _ _ _
  refine ⟨stored, Catalog.getVersion_eq_ok_iff.mpr ⟨content, ETag.admits_any _⟩, same, tag,
    tag.trans hash, fun next meant selects => ?_⟩
  refine ⟨stored, ?_, .inr (selects.trans tag)⟩
  rw [Amendment.stored?_eq meant]
  exact content

/-- The version of the sample is put into another collection, while another dataset is written
before every call. -/
theorem amend_answers_stored_sample :
    let machine : Machine := {}
    let identifiers : VersionIdentifiers := ⟨"cpih01", "time-series", "1"⟩
    let details : VersionDetails := ⟨"cpih01", "time-series", 1⟩
    let update : Version := { state := some .associated, collectionId := "collection-2" }
    let request := machine.amend identifiers update { hasDownloads := true }
    identifiers.resolve = .ok details ∧ Site.sample.catalog.WellFiled ∧
      ∃ events version last, Runs (Request.besides details.slot) request Site.sample events
          (some (.ok version)) last ∧
        (last.catalog.datasets.get? "cpih02").isSome = true ∧
        ∃ stored, last.catalog.getVersion details.slot ETag.any = .ok stored ∧
          version = { stored with lastUpdated := version.lastUpdated } ∧
          version.eTag = stored.eTag ∧ version.eTag = stored.hash ∧
          Amendment.Condition.selector.Holds
            ⟨machine, identifiers, {}, { ifMatch := version.eTag }⟩ last.catalog := by
  intro machine identifiers details update request
  let meddle (_ : Call) (site : Site) : Site := (site.store (.upsertDataset "cpih02" {})).2
  have named : identifiers.resolve = .ok details := VersionIdentifiers.resolve_sample
  have run := Program.runs_eventsAmong (Request.besides details.slot) meddle Site.perform
    (fun call site => site.answers_perform call) (fun _ _ => .inr ⟨.store _, rfl⟩) request
    Site.sample
  let outcome := request.run (fun call site => Site.perform call (meddle call site)) Site.sample
  have succeeds : outcome.1.isOk = true ∧
      (outcome.2.catalog.datasets.get? "cpih02").isSome = true := by decide +kernel
  obtain ⟨version, succeeded⟩ : ∃ version, outcome.1 = .ok version := by
    cases answer : outcome.1 with
    | ok version => exact ⟨version, rfl⟩
    | error error => cases answer ▸ succeeds.1
  rw [succeeded] at run
  obtain ⟨stored, read, same, tag, hash, selected⟩ :=
    amend_answers_stored named Site.wellFiled_sample run
  exact ⟨named, Site.wellFiled_sample, _, version, _, run, succeeds.2, stored, read, same, tag,
    hash, selected ⟨machine, identifiers, {}, { ifMatch := version.eTag }⟩ named rfl⟩

end Machine

end ReleaseCatalog
