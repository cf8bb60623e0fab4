/-
What authorised readers see of a dataset. They see Next, or Current when there is no Next. Whoever
promotes the dataset starts from that half, so that a promotion keeps all that it does not set. An
association does not: it starts a missing Next as a fresh half, and what Current has is no longer
seen. So the half that is seen lasts in every run in which no association starts a Next half, and it
does not last when one does.
-/

import ReleaseCatalog.Proofs.Concurrency.Cascades

namespace ReleaseCatalog

variable {ι : Type}

/-! ### The half that is seen -/

/-- The halves agree in what is not of the workflow: what the dataset is about, its type, when it is
released next, and where it and its editions are found. -/
structure DatasetHalf.AgreesWith (half other : DatasetHalf) : Prop where
  title : half.title = other.title
  description : half.description = other.description
  type : half.type = other.type
  nextRelease : half.nextRelease = other.nextRelease
  editions : half.links.bind (·.editions) = other.links.bind (·.editions)
  self : half.links.bind (·.self) = other.links.bind (·.self)

/-- What cascades leave alone is more than that. -/
theorem DatasetHalf.agreesWith_of_lasting {half other : DatasetHalf}
    (same : half.lasting = other.lasting) : half.AgreesWith other := by
  have link (field : DatasetLinks → Option Link) (blank : field {} = none) (half : DatasetHalf) :
      half.links.bind field = field (half.links.getD {}) := by
    cases half.links with
    | none => exact blank.symm
    | some links => rfl
  obtain ⟨links, title, description, type, nextRelease⟩ :
      half.lasting.links = other.lasting.links ∧ half.lasting.title = other.lasting.title ∧
        half.lasting.description = other.lasting.description ∧
        half.lasting.type = other.lasting.type ∧
        half.lasting.nextRelease = other.lasting.nextRelease := by
    rw [same]
    exact ⟨rfl, rfl, rfl, rfl, rfl⟩
  have both := Option.some_inj.mp links
  refine ⟨title, description, type, nextRelease, ?_, ?_⟩
  · rw [link _ rfl half, link _ rfl other]
    exact congrArg (·.editions) both
  · rw [link _ rfl half, link _ rfl other]
    exact congrArg (·.self) both

namespace Dataset

variable {half : DatasetHalf} {dataset : Dataset}

/-- The half that authorised readers see is the given one, but for what cascades write. -/
def Shows (half : DatasetHalf) (dataset : Dataset) : Prop :=
  dataset.authorisedHalf.map DatasetHalf.lasting = some half

/-- A promotion starts from the half that is seen. -/
theorem shows_promote (shows : dataset.Shows half) (now : Timestamp) (version : Version)
    (id : String) : Shows half { dataset.promote now version with id := id } := by
  obtain ⟨seen, found, rfl⟩ := Option.map_eq_some_iff.mp shows
  unfold promote
  rw [found]
  exact congrArg some (seen.lasting_publish now version)

/-- An association on a dataset with a Next half goes on with that half. -/
theorem shows_associateNext (shows : dataset.Shows half) (edited : dataset.next ≠ none)
    (id : String) (now : Timestamp) (state : State) (version : Version) :
    Shows half (dataset.associateNext id now state version) := by
  obtain ⟨next, found⟩ := Option.ne_none_iff_exists'.mp edited
  unfold Shows authorisedHalf associateNext at *
  rw [found] at shows ⊢
  exact shows

end Dataset

/-! ### The half in a run -/

/-- A request has recorded an association on a dataset that had no Next half. -/
def Happening.StartsNext (id : String) : Happening ι → Prop
  | .called _ site writes => ∃ stored version, site.catalog.datasets.get? id = some stored ∧
      stored.next = none ∧
      .dataset id (stored.associateNext id site.now .associated version) ∈ writes
  | _ => False

variable {calls : ι → Amendment} {trace happenings : List (Happening ι)} {id : String}
  {initial : Dataset} {half : DatasetHalf}

/-- Whoever has called the store has found the dataset with the half to be seen. It is to be seen
still; and a dataset that had a Next half at first has one still. -/
structure Dataset.Exhibits (id : String) (initial : Dataset) (half : DatasetHalf)
    (catalog : Catalog) (trace : List (Happening ι)) : Prop where
  seen {caller : ι} {site : Site} {writes : List Write} : .called caller site writes ∈ trace →
    ∃ dataset, site.catalog.datasets.get? id = some dataset ∧ dataset.Shows half
  stands : ∃ stored, catalog.datasets.get? id = some stored ∧ stored.Shows half ∧
    (initial.next ≠ none → stored.next ≠ none)

/-- A dataset that a request has read shows the half. -/
theorem Dataset.Exhibits.shows_of_read {catalog : Catalog} {caller : ι} {amendment : Amendment}
    {details : VersionDetails} {tally : Tally} {document : Dataset}
    (exhibits : Exhibits details.datasetId initial half catalog trace)
    (named : amendment.identifiers.resolve = .ok details)
    (evidence : amendment.Evidence trace caller tally) (read : tally.dataset = some document) :
    document.Shows half := by
  obtain ⟨other, resolved, site, member, answered⟩ := evidence.dataset read
  cases named.symm.trans resolved
  obtain ⟨dataset, found, shows⟩ := exhibits.seen member
  cases found.symm.trans (Catalog.getDataset_eq_ok_iff.mp answered)
  exact shows

/-- What a request writes for the dataset shows the half and has a Next half, unless it is an
association that starts one. -/
theorem Dataset.Exhibits.of_mem_writes {site : Site} {caller : ι} {tally : Tally} {call : Call}
    {writes : List Write} {document : Dataset}
    (exhibits : Exhibits id initial half site.catalog trace)
    (evidence : (calls caller).Evidence trace caller tally)
    (fine : (calls caller).conduct.fine tally call) (begun : writes <+: site.callWrites call)
    (member : .dataset id document ∈ writes)
    (clean : initial.next = none → ¬(Happening.called caller site writes).StartsNext id) :
    document.Shows half ∧ document.next ≠ none := by
  obtain ⟨stored, found, shows, edited⟩ := exhibits.stands
  obtain ⟨details, persisted, named, rfl, -, -, brought⟩ :=
    Amendment.dataset_of_mem_writes fine begun member
  rcases brought with ⟨-, dataset, now, read, rfl⟩ | ⟨-, existing, here, rfl⟩
  · exact ⟨shows_promote (exhibits.shows_of_read named evidence read) now persisted _,
      Option.some_ne_none _⟩
  · cases found.symm.trans here
    have started : stored.next ≠ none := by
      intro absent
      have fresh : initial.next = none := by_contra fun other => edited other absent
      exact clean fresh ⟨stored, persisted, found, absent, member⟩
    exact ⟨shows_associateNext shows started _ site.now .associated persisted,
      Option.some_ne_none _⟩

namespace System

variable [DecidableEq ι] {start last : System ι (Result Version)}

/-- Whatever happens next, the half is to be seen still. -/
theorem Turn.exhibits {site last : Site} {tallies later : ι → Tally}
    (turn : Turn calls site tallies happenings last later)
    (exhibits : Dataset.Exhibits id initial half site.catalog trace)
    (evidence : ∀ caller, (calls caller).Evidence trace caller (tallies caller))
    (undisturbed : ∀ call site, .outside call site ∈ happenings → ∀ document,
      Write.dataset id document ∉ call.writes site.now site.catalog)
    (clean : initial.next = none → ∀ happening ∈ happenings, ¬happening.StartsNext id) :
    Dataset.Exhibits id initial half last.catalog (trace ++ happenings) := by
  obtain ⟨stored, found, shows, edited⟩ := exhibits.stands
  refine ⟨fun {caller seen writes} member => ?_, ?_⟩
  · rcases List.mem_append.mp member with earlier | now
    · exact exhibits.seen earlier
    · cases turn.site_eq now
      exact ⟨stored, found, shows⟩
  rcases turn.dataset_cases undisturbed with
    ⟨caller, call, writes, document, rfl, fine, begun, member, put⟩ | ⟨-, unchanged⟩
  · obtain ⟨showsStill, editedNow⟩ := exhibits.of_mem_writes (evidence caller) fine begun member
      fun absent => clean absent _ List.mem_cons_self
    exact ⟨document, put, showsStill, fun _ => editedNow⟩
  · exact ⟨stored, unchanged.trans found, shows, edited⟩

theorem DisturbedRuns.exhibits
    (ready : ∀ caller, start.progress caller = .ready (calls caller).request)
    (standard : ∀ caller, (calls caller).machine.handlers = {})
    (found : start.site.catalog.datasets.get? id = some initial) (shows : initial.Shows half)
    (run : DisturbedRuns start trace last)
    (undisturbed : ∀ call site, .outside call site ∈ trace → ∀ document,
      Write.dataset id document ∉ call.writes site.now site.catalog)
    (clean : initial.next = none → ∀ happening ∈ trace, ¬happening.StartsNext id) :
    Dataset.Exhibits id initial half last.site.catalog trace := by
  induction run with
  | begun => exact ⟨fun member => absurd member List.not_mem_nil, initial, found, shows,
      fun edited => edited⟩
  | step run step inductionHypothesis =>
    have exhibits := inductionHypothesis
      (fun call site member => undisturbed call site (List.mem_append_left _ member))
      fun absent happening member => clean absent happening (List.mem_append_left _ member)
    obtain ⟨tallies, tallied⟩ := run.exists_tallied ready standard
    obtain ⟨later, turn, -⟩ := tallied.step step
    refine turn.exhibits exhibits tallied.evidence ?_ ?_
    · exact fun call site member => undisturbed call site (List.mem_append_right _ member)
    · exact fun absent happening member => clean absent happening (List.mem_append_right _ member)

/-- What authorised readers see of a dataset survives the workflow, as long as no association starts
its Next half. Any number of requests with the built-in handlers run at one disturbed site, with
their calls interleaved in any way, and nobody else writes the dataset, which has one half or both.
If it had a Next half at first, or no association was recorded while it had none, then at any moment
the half that authorised readers see agrees with the initial one in its title, description and type,
its next release and its links to itself and to its editions; so the type that they are answered is
the same. -/
theorem DisturbedRuns.authorised_half_lasts
    (ready : ∀ caller, start.progress caller = .ready (calls caller).request)
    (standard : ∀ caller, (calls caller).machine.handlers = {})
    (found : start.site.catalog.datasets.get? id = some initial)
    (shown : initial.authorisedHalf = some half) (run : DisturbedRuns start trace last)
    (undisturbed : ∀ call site, .outside call site ∈ trace → ∀ document,
      Write.dataset id document ∉ call.writes site.now site.catalog)
    (clean : initial.next = none → ∀ happening ∈ trace, ¬happening.StartsNext id) :
    (∃ stored later, last.site.catalog.datasets.get? id = some stored ∧
      stored.authorisedHalf = some later ∧ half.AgreesWith later) ∧
    last.site.catalog.getDatasetType id true = start.site.catalog.getDatasetType id true := by
  have shows : initial.Shows half.lasting := congrArg (Option.map DatasetHalf.lasting) shown
  obtain ⟨stored, stands, shows, -⟩ :=
    (run.exhibits ready standard found shows undisturbed clean).stands
  obtain ⟨later, seen, same⟩ := Option.map_eq_some_iff.mp shows
  have agrees := DatasetHalf.agreesWith_of_lasting same.symm
  refine ⟨⟨stored, later, stands, seen, agrees⟩, ?_⟩
  have typed : stored.typeFor true = initial.typeFor true := by
    simp [Dataset.typeFor, seen, shown, agrees.type]
  unfold Catalog.getDatasetType Catalog.getDataset
  simp only [stands, found, typed]

end System

/-! ### A sample of a dataset with one half -/

/-- A site with one version in a collection, whose dataset is published and not being edited. -/
def Site.samplePublished : Site where
  catalog := Catalog.writeAll {} [
    .dataset "mortality" { id := "mortality", current := some {
      id := "mortality", title := "Mortality statistics", type := "nomis"
      state := some .published } },
    .edition ("mortality", "time-series") { id := "time-series" },
    .record "import-1" { id := "import-1", state := some .associated },
    .version ⟨"mortality", "time-series", 1⟩ {
      id := "import-1", datasetId := "mortality", edition := "time-series", number := 1
      type := "nomis", state := some .associated, releaseDate := "2024-01-17"
      links := some { version := some ⟨"1", "/versions/1"⟩ } }]

/-- A request that brings the version of the sample into a state, when its downloads exist. -/
def Amendment.samplePublished (target : State) : Amendment :=
  ⟨{}, ⟨"mortality", "time-series", "1"⟩, { state := some target }, { hasDownloads := true }⟩

/-- A request at the sample that has not begun. -/
def System.samplePublished (target : State) : System Unit (Result Version) :=
  ⟨Site.samplePublished, fun _ => .ready (Amendment.samplePublished target).request⟩

/-- Whether a write marks the Next half of a dataset associated. -/
def Write.marksAssociated : Write → Bool
  | .dataset _ document => document.next.bind (·.state) = some .associated
  | _ => false

namespace System.DisturbedRuns

/-- The version of the sample is published, so that the dataset has both halves. -/
theorem authorised_half_lasts_sample :
    let calls (_ : Unit) := Amendment.samplePublished .published
    let start := System.samplePublished .published
    ∃ initial half trace last, (∀ caller, start.progress caller = .ready (calls caller).request) ∧
      (∀ caller, (calls caller).machine.handlers = {}) ∧
      start.site.catalog.datasets.get? "mortality" = some initial ∧
      initial.authorisedHalf = some half ∧ initial.next = none ∧
      System.DisturbedRuns start trace last ∧
      (∀ call site, .outside call site ∈ trace → ∀ document,
        Write.dataset "mortality" document ∉ call.writes site.now site.catalog) ∧
      (initial.next = none → ∀ happening ∈ trace, ¬happening.StartsNext "mortality") ∧
      (last.progress ()).value?.isSome = true ∧
      (∃ stored later, last.site.catalog.datasets.get? "mortality" = some stored ∧
        stored.authorisedHalf = some later ∧ half.AgreesWith later) ∧
      last.site.catalog.getDatasetType "mortality" true =
        start.site.catalog.getDatasetType "mortality" true := by
  intro calls start
  let turns := List.replicate 14 ()
  obtain ⟨trace, alone, run⟩ := System.exists_runs_goOn Site.answers_perform start turns
  have found : start.site.catalog.datasets.get? "mortality" = some
      { id := "mortality", current := some {
        id := "mortality", title := "Mortality statistics", type := "nomis"
        state := some .published } } := by
    decide +kernel
  have undisturbed (call : StoreCall) (site : Site) (member : .outside call site ∈ trace)
      (document : Dataset) :
      Write.dataset "mortality" document ∉ call.writes site.now site.catalog :=
    absurd member (Happening.not_outside_of_alone alone call site)
  have journal : (turns.foldl System.goOn start).site.journal = trace.flatMap Happening.writes :=
    run.journal
  have unassociated : ∀ change ∈ (turns.foldl System.goOn start).site.journal,
      change.marksAssociated = false := by
    decide +kernel
  have clean (happening : Happening Unit) (member : happening ∈ trace) :
      ¬happening.StartsNext "mortality" := by
    intro starts
    cases happening with
    | obtained | outside => exact starts
    | called caller site writes =>
      obtain ⟨stored, version, -, -, written⟩ := starts
      cases unassociated _ (journal ▸ List.mem_flatMap.mpr ⟨_, member, written⟩)
  have returned : ((turns.foldl System.goOn start).progress ()).value?.isSome = true := by
    decide +kernel
  exact ⟨_, _, trace, _, fun _ => rfl, fun _ => rfl, found, rfl, rfl, run.disturbed, undisturbed,
    fun _ => clean, returned, System.DisturbedRuns.authorised_half_lasts (fun _ => rfl)
      (fun _ => rfl) found rfl run.disturbed undisturbed fun _ => clean⟩

/-- When the version of the sample is associated its dataset gets a fresh Next half, and authorised
readers see neither the title nor the type of the dataset any longer. -/
theorem authorised_half_is_hidden :
    let calls (_ : Unit) := Amendment.samplePublished .associated
    let start := System.samplePublished .associated
    ∃ initial half trace last, (∀ caller, start.progress caller = .ready (calls caller).request) ∧
      (∀ caller, (calls caller).machine.handlers = {}) ∧
      start.site.catalog.datasets.get? "mortality" = some initial ∧
      initial.authorisedHalf = some half ∧
      System.DisturbedRuns start trace last ∧
      (∀ call site, .outside call site ∈ trace → ∀ document,
        Write.dataset "mortality" document ∉ call.writes site.now site.catalog) ∧
      (last.progress ()).value?.isSome = true ∧
      (∀ stored later, last.site.catalog.datasets.get? "mortality" = some stored →
        stored.authorisedHalf = some later → ¬half.AgreesWith later) ∧
      start.site.catalog.getDatasetType "mortality" true = .ok .nomis ∧
      last.site.catalog.getDatasetType "mortality" true = .ok .filterable := by
  intro calls start
  let turns := List.replicate 14 ()
  obtain ⟨trace, alone, run⟩ := System.exists_runs_goOn Site.answers_perform start turns
  have found : start.site.catalog.datasets.get? "mortality" = some
      { id := "mortality", current := some {
        id := "mortality", title := "Mortality statistics", type := "nomis"
        state := some .published } } := by
    decide +kernel
  have undisturbed (call : StoreCall) (site : Site) (member : .outside call site ∈ trace)
      (document : Dataset) :
      Write.dataset "mortality" document ∉ call.writes site.now site.catalog :=
    absurd member (Happening.not_outside_of_alone alone call site)
  have returned : ((turns.foldl System.goOn start).progress ()).value?.isSome = true := by
    decide +kernel
  have untitled : ((turns.foldl System.goOn start).site.catalog.datasets.get? "mortality").bind
      (fun stored => stored.authorisedHalf.map (·.title)) = some "" := by
    decide +kernel
  refine ⟨_, _, trace, _, fun _ => rfl, fun _ => rfl, found, rfl, run.disturbed, undisturbed,
    returned, fun stored later stands seen agrees => ?_, by decide +kernel, by decide +kernel⟩
  rw [stands] at untitled
  simp only [Option.bind_some, seen, Option.map_some, Option.some_inj] at untitled
  exact absurd (agrees.title.trans untitled) (by decide)

end System.DisturbedRuns

end ReleaseCatalog
