/-
What the public sees. A dataset and an edition show their Current half to the public. Any number of
requests with the built-in handlers run at a disturbed site, and nobody else writes there. Whatever
is interleaved and whatever fails, at any moment each of these halves is the one with which the run
began, or it shows a version that was stored as published before the half was written; and a request
that has not stored its version as published leaves alone what the public sees.
-/

import ReleaseCatalog.Proofs.Concurrency.Cascades
import ReleaseCatalog.Proofs.Concurrency.Ledger

namespace ReleaseCatalog

variable {ι : Type}

/-! ### Halves that show a version -/

/-- The half shows the version: it is published, belongs to no collection, and calls the version its
latest. -/
structure DatasetHalf.Presents (half : DatasetHalf) (version : Version) : Prop where
  state : half.state = some .published
  collectionId : half.collectionId = ""
  latest : half.links.bind (·.latestVersion) =
    some ⟨Decimal.text version.number.toNat, version.versionHref⟩

/-- The half shows the version: it is published, and its link to the latest version is the one of
the version, which has a target. -/
structure EditionHalf.Presents (half : EditionHalf) (version : Version) : Prop where
  state : half.state = some .published
  latest : ∃ link, half.links.bind (·.latestVersion) = some link ∧
    version.versionLink = some link ∧ link.href ≠ ""

/-- A promoted dataset shows the version with which it was promoted. -/
theorem Dataset.current_promote (dataset : Dataset) (now : Timestamp) (version : Version) :
    ∃ half, (dataset.promote now version).current = some half ∧ half.Presents version :=
  ⟨_, rfl, rfl, rfl, rfl⟩

/-- A promoted edition shows the version with which it was promoted. -/
theorem Edition.current_promote {edition promoted : Edition} {now : Timestamp} {version : Version}
    (done : edition.promote now version.versionLink = (promoted, .ok ())) :
    ∃ half, promoted.current = some half ∧ half.Presents version := by
  obtain ⟨target, link, aimed⟩ := (edition.promote_eq_ok_iff now).mp (congrArg Prod.snd done)
  rw [link, edition.promote_of_leads now aimed] at done
  cases done
  exact ⟨_, rfl, rfl, target, rfl, link, fun empty => by simp [empty] at aimed⟩

/-! ### What a write shows -/

/-- Only versions that are to be published have the handler that publishes. -/
theorem Handler.default_eq_published_iff {state : State} :
    Handler.default state = .published ↔ state = .published := by
  cases state <;> simp [Handler.default]

namespace Machine

variable {machine : Machine} {details : VersionDetails} {update : Version}
  {documents : List Version} {site : Site}

/-- By the built-in handlers only published versions are published. -/
theorem state_of_handler? (standard : machine.handlers = {}) {version : Version}
    (chosen : machine.handler? version = some .published) : version.state = some .published := by
  obtain ⟨state, stored, default⟩ := Option.map_eq_some_iff.mp chosen
  rw [standard] at default
  rw [stored, Handler.default_eq_published_iff.mp default]

/-- A dataset that is written has the Current half of the stored one, or shows a published version
that was written before. -/
theorem Licenses.dataset_cases (standard : machine.handlers = {}) {id : String} {document : Dataset}
    (licensed : machine.Licenses details update documents site (.dataset id document)) :
    (∃ stored, site.catalog.datasets.get? id = some stored ∧ document.current = stored.current) ∨
      ∃ version ∈ documents, version.state = some .published ∧ id = details.datasetId ∧
        ∃ half, document.current = some half ∧ half.Presents version := by
  cases licensed with
  | association _ _ found => exact .inl ⟨_, found, rfl⟩
  | datasetPromotion dataset now member chosen =>
    exact .inr ⟨_, member, state_of_handler? standard chosen, rfl,
      dataset.current_promote now _⟩

/-- An edition that is written shows a published version that was written before. -/
theorem Licenses.edition_cases (standard : machine.handlers = {}) {key : String × String}
    {document : Edition}
    (licensed : machine.Licenses details update documents site (.edition key document)) :
    ∃ version ∈ documents, version.state = some .published ∧
      key = (details.datasetId, details.edition) ∧
      ∃ half, document.current = some half ∧ half.Presents version := by
  cases licensed with
  | editionPromotion member chosen done =>
    obtain ⟨half, current, presents⟩ := Edition.current_promote done
    exact ⟨_, member, state_of_handler? standard chosen, rfl, half, current, presents⟩

/-- The record of an instance that is written is published as far as the stored one was, or a
published version was written before. -/
theorem Licenses.record_cases (standard : machine.handlers = {}) {id : String} {record : Instance}
    (licensed : machine.Licenses details update documents site (.record id record)) :
    (∃ stored, site.catalog.instances.get? id = some stored ∧
      record.isPublished = stored.isPublished) ∨
      ∃ version ∈ documents, version.state = some .published := by
  cases licensed with
  | mirror _ found => exact .inl ⟨_, found, rfl⟩
  | publication member chosen => exact .inr ⟨_, member, state_of_handler? standard chosen⟩

end Machine

/-! ### Halves that are vouched for -/

/-- The half is an initial one, or it shows a version that these writes have stored as published. -/
def Write.Vouch {Half : Type} (initially : Half → Prop) (shows : Half → Version → Prop)
    (writes : List Write) (half : Half) : Prop :=
  initially half ∨ ∃ version, shows half version ∧ version.state = some .published ∧
    .version version.key version ∈ writes

theorem Write.Vouch.append {Half : Type} {initially : Half → Prop} {shows : Half → Version → Prop}
    {writes : List Write} {half : Half} (vouched : Vouch initially shows writes half)
    (more : List Write) : Vouch initially shows (writes ++ more) half := by
  refine vouched.imp_right ?_
  rintro ⟨version, shown, published, member⟩
  exact ⟨version, shown, published, List.mem_append_left _ member⟩

/-- The half is the one that the dataset had at first, or it shows a version of the dataset that
these writes have stored as published. -/
def DatasetHalf.Vouched (initial : Catalog) (id : String) (writes : List Write)
    (half : DatasetHalf) : Prop :=
  Write.Vouch (fun half => ∃ first, initial.datasets.get? id = some first ∧
      first.current = some half)
    (fun half version => half.Presents version ∧ version.datasetId = id) writes half

/-- The half is the one that the edition had at first, or it shows a version of the edition that
these writes have stored as published. -/
def EditionHalf.Vouched (initial : Catalog) (key : String × String) (writes : List Write)
    (half : EditionHalf) : Prop :=
  Write.Vouch (fun half => ∃ first, initial.editions.get? key = some first ∧
      first.current = some half)
    (fun half version => half.Presents version ∧ (version.datasetId, version.edition) = key)
    writes half

/-- Whenever the writes put a document with a Current half into the catalog, the half was vouched
for by the writes before. -/
structure Write.Discreet (initial : Catalog) (writes : List Write) : Prop where
  dataset {front back : List Write} {id : String} {document : Dataset} {half : DatasetHalf} :
    writes = front ++ .dataset id document :: back → document.current = some half →
      half.Vouched initial id front
  edition {front back : List Write} {key : String × String} {document : Edition}
      {half : EditionHalf} :
    writes = front ++ .edition key document :: back → document.current = some half →
      half.Vouched initial key front

namespace Write

variable {initial : Catalog} {written writes : List Write}

theorem discreet_nil : Discreet initial [] where
  dataset split := absurd split (by simp)
  edition split := absurd split (by simp)

/-- The Current half of a dataset is vouched for by all writes so far. -/
theorem Discreet.dataset_vouched (discreet : Discreet initial writes) {id : String}
    {dataset : Dataset} {half : DatasetHalf}
    (found : (initial.writeAll writes).datasets.get? id = some dataset)
    (shown : dataset.current = some half) : half.Vouched initial id writes := by
  rcases initial.get?_datasets_writeAll writes id with ⟨document, member, put⟩ | ⟨-, same⟩
  · cases Option.some_inj.mp (found.symm.trans put)
    obtain ⟨front, back, rfl⟩ := List.append_of_mem member
    exact (discreet.dataset rfl shown).append _
  · exact .inl ⟨dataset, same ▸ found, shown⟩

/-- The Current half of an edition is vouched for by all writes so far. -/
theorem Discreet.edition_vouched (discreet : Discreet initial writes) {key : String × String}
    {edition : Edition} {half : EditionHalf}
    (found : (initial.writeAll writes).editions.get? key = some edition)
    (shown : edition.current = some half) : half.Vouched initial key writes := by
  rcases initial.get?_editions_writeAll writes key with ⟨document, member, put⟩ | ⟨-, same⟩
  · cases Option.some_inj.mp (found.symm.trans put)
    obtain ⟨front, back, rfl⟩ := List.append_of_mem member
    exact (discreet.edition rfl shown).append _
  · exact .inl ⟨edition, same ▸ found, shown⟩

variable {machine : Machine} {details : VersionDetails} {update : Version}
  {entries : List Entry} {site : Site}

/-- Writes that are made in their turn stay discreet. -/
theorem Discreet.append (discreet : Discreet initial written)
    (made : site.catalog = initial.writeAll written) (standard : machine.handlers = {})
    (orderly : machine.Orderly details update (entries ++ Entry.ofWrites site writes))
    (among : ∀ entry ∈ entries, entry.write ∈ written) : Discreet initial (written ++ writes) := by
  -- What a request has put into its slot before a write is among the writes before it.
  have put {front back : List Write} {change : Write} {version : Version}
      (split : writes = front ++ change :: back)
      (own : version ∈ Entry.documents details.slot entries ++ documentsAt details.slot front) :
      version.key = details.slot ∧ .version version.key version ∈ written ++ front := by
    rw [← Entry.documents_ofWrites site front, ← Entry.documents_append] at own
    have all : entries ++ Entry.ofWrites site writes =
        entries ++ Entry.ofWrites site front ++ Entry.ofWrites site (change :: back) := by
      simp [split, Entry.ofWrites]
    have before : machine.Orderly details update (entries ++ Entry.ofWrites site front) :=
      (all ▸ orderly).of_append
    obtain ⟨-, entry, member, same, stored, replaces⟩ := before.exists_replaces own
    rw [replaces.key_eq, ← same]
    refine ⟨rfl, ?_⟩
    rcases List.mem_append.mp member with earlier | now
    · exact List.mem_append_left _ (among entry earlier)
    · obtain ⟨change, made, rfl⟩ := List.mem_map.mp now
      exact List.mem_append_right _ made
  constructor
  · intro front back id document half split shown
    rcases split_append split with ⟨rest, before⟩ | ⟨between, rfl, now⟩
    · exact discreet.dataset before shown
    rcases (orderly.licenses now).dataset_cases standard with
      ⟨stored, found, kept⟩ | ⟨version, own, published, rfl, promoted, current, presents⟩
    · exact (discreet.dataset_vouched (made ▸ found) (kept.symm.trans shown)).append _
    · cases Option.some_inj.mp (current.symm.trans shown)
      obtain ⟨key, stored⟩ := put now own
      exact .inr ⟨version, ⟨presents, congrArg VersionKey.datasetId key⟩, published, stored⟩
  · intro front back key document half split shown
    rcases split_append split with ⟨rest, before⟩ | ⟨between, rfl, now⟩
    · exact discreet.edition before shown
    obtain ⟨version, own, published, rfl, promoted, current, presents⟩ :=
      (orderly.licenses now).edition_cases standard
    cases Option.some_inj.mp (current.symm.trans shown)
    obtain ⟨key, stored⟩ := put now own
    exact .inr ⟨version, ⟨presents, congrArg (fun key => (key.datasetId, key.edition)) key⟩,
      published, stored⟩

end Write

/-! ### What requests leave alone -/

namespace Catalog

variable [DecidableEq ι] {trace : List (Happening ι)} {machine : Machine}
  {details : VersionDetails} {update : Version} {caller : ι} {site : Site} {writes : List Write}

/-- The public sees the same of both catalogs: the same Current halves, the same editions, and the
same instances as published. -/
structure SamePublic (before after : Catalog) : Prop where
  datasets (id : String) : (after.datasets.get? id).bind (·.current) =
    (before.datasets.get? id).bind (·.current)
  editions (key : String × String) : after.editions.get? key = before.editions.get? key
  instances (id : String) : (after.instances.get? id).map (·.isPublished) =
    (before.instances.get? id).map (·.isPublished)

/-- A request that has put no published version into its slot leaves alone what the public sees. -/
theorem samePublic_of_orderly (standard : machine.handlers = {})
    (orderly : machine.Orderly details update (Happening.entries caller trace))
    (unpublished : ∀ version ∈ Entry.documents details.slot (Happening.entries caller trace),
      version.state ≠ some .published)
    (member : .called caller site writes ∈ trace) :
    site.catalog.SamePublic (site.catalog.writeAll writes) := by
  have licensed {change : Write} (made : change ∈ writes) :
      ∃ documents, machine.Licenses details update documents site change ∧
        ∀ version ∈ documents, version.state ≠ some .published := by
    obtain ⟨earlier, later, split⟩ := List.append_of_mem
      (Happening.mem_entries_iff.mpr ⟨writes, member, made⟩ :
        (⟨site, change⟩ : Entry) ∈ Happening.entries caller trace)
    refine ⟨_, orderly earlier _ later split, fun version put => unpublished version ?_⟩
    rw [split, Entry.documents_append]
    exact List.mem_append_left _ put
  refine ⟨fun id => ?_, fun key => ?_, fun id => ?_⟩
  · rcases site.catalog.get?_datasets_writeAll writes id with ⟨document, made, put⟩ | ⟨-, same⟩
    · obtain ⟨_, licensed, other⟩ := licensed made
      rcases licensed.dataset_cases standard with ⟨stored, found, kept⟩ | ⟨version, own, shown, -⟩
      · rw [put, found]
        exact kept
      · exact absurd shown (other version own)
    · rw [same]
  · rcases site.catalog.get?_editions_writeAll writes key with ⟨document, made, put⟩ | ⟨-, same⟩
    · obtain ⟨_, licensed, other⟩ := licensed made
      obtain ⟨version, own, shown, -⟩ := licensed.edition_cases standard
      exact absurd shown (other version own)
    · exact same
  · rcases site.catalog.get?_instances_writeAll writes id with ⟨record, made, put⟩ | ⟨-, same⟩
    · obtain ⟨_, licensed, other⟩ := licensed made
      rcases licensed.record_cases standard with ⟨stored, found, kept⟩ | ⟨version, own, shown⟩
      · rw [put, found]
        exact congrArg some kept
      · exact absurd shown (other version own)
    · rw [same]

end Catalog

/-- The request has put a document into the slot of its version, and by the version that stood there
its update asked for the state. A request that has put none there yet has written nothing at all. -/
def Amendment.HasTarget (amendment : Amendment) (trace : List (Happening ι)) (caller : ι)
    (target : State) : Prop :=
  ∃ site writes stored document, .called caller site writes ∈ trace ∧
    .version amendment.subject.slot document ∈ writes ∧
    site.content amendment.subject = some stored ∧
    (Version.combine stored amendment.update).state = some target

/-- A request has its target in the state of the document that it puts into its slot. -/
theorem Amendment.hasTarget_of_mem [DecidableEq ι] {amendment : Amendment}
    {trace : List (Happening ι)} {caller : ι} {version : Version} {target : State}
    (orderly : amendment.machine.Orderly amendment.subject amendment.update
      (Happening.entries caller trace))
    (put : version ∈ Entry.documents amendment.subject.slot (Happening.entries caller trace))
    (entered : version.state = some target) : amendment.HasTarget trace caller target := by
  obtain ⟨-, entry, member, written, stored, replaces⟩ := orderly.exists_replaces put
  obtain ⟨writes, called, among⟩ := Happening.mem_entries_iff.mp member
  rw [replaces.made] at entered
  exact ⟨entry.site, writes, stored, version, called, written ▸ among, replaces.found, entered⟩

namespace System

variable [DecidableEq ι] {calls : ι → Amendment} {start last : System ι (Result Version)}
  {trace : List (Happening ι)}

/-- Whatever happens, all writes are discreet. -/
theorem DisturbedRuns.discreet (begins : start.Begins calls)
    (standard : ∀ caller, (calls caller).machine.handlers = {}) (run : DisturbedRuns start trace last)
    (undisturbed : ∀ call site, .outside call site ∈ trace →
      call.writes site.now site.catalog = []) :
    Write.Discreet start.site.catalog (trace.flatMap Happening.writes) := by
  induction run with
  | begun => exact Write.discreet_nil
  | @step trace happenings middle last before step inductionHypothesis =>
    have discreet := inductionHypothesis fun call site member =>
      undisturbed call site (List.mem_append_left _ member)
    obtain ⟨_, _, ledger⟩ := (before.step step).exists_ledger begins fun call site member slot => by
      rw [undisturbed call site member]
      rfl
    rw [List.flatMap_append]
    rcases step.happenings_cases with (rfl | ⟨caller, rfl⟩) | ⟨caller, writes, rfl⟩ | ⟨call, rfl⟩
    · rwa [List.flatMap_nil, List.append_nil]
    · rwa [List.flatMap_singleton, Happening.writes, List.append_nil]
    · have orderly := ledger.orderly caller
      rw [Happening.entries_append, Happening.entries_called_self] at orderly
      rw [List.flatMap_singleton]
      refine discreet.append before.catalog (standard caller) orderly fun entry member => ?_
      obtain ⟨_, called, among⟩ := Happening.mem_entries_iff.mp member
      exact List.mem_flatMap.mpr ⟨_, called, among⟩
    · rwa [List.flatMap_singleton, Happening.writes,
        undisturbed call _ (List.mem_append_right _ List.mem_cons_self), List.append_nil]

/-- Only publishing touches what the public sees, and it never shows an unpublished version. Any
number of requests with the built-in handlers run at one disturbed site, with their calls
interleaved in any way, and nobody else writes there. At any moment each Current half of a dataset
or of an edition is the initial one, or it is published and calls a version its latest: one that is
stored as published by then, and was so already before every write of the half; of a dataset the
half belongs to no collection, and of an edition the link has a target. And a request whose target
is not to publish changes with none of its calls a Current half, an edition, or whether an instance
is published. -/
theorem DisturbedRuns.only_published_versions_are_shown (begins : start.Begins calls)
    (standard : ∀ caller, (calls caller).machine.handlers = {}) (run : DisturbedRuns start trace last)
    (undisturbed : ∀ call site, .outside call site ∈ trace →
      call.writes site.now site.catalog = []) :
    (∀ id dataset half, last.site.catalog.datasets.get? id = some dataset →
      dataset.current = some half →
        half.Vouched start.site.catalog id (trace.flatMap Happening.writes)) ∧
    (∀ key edition half, last.site.catalog.editions.get? key = some edition →
      edition.current = some half →
        half.Vouched start.site.catalog key (trace.flatMap Happening.writes)) ∧
    Write.Discreet start.site.catalog (trace.flatMap Happening.writes) ∧
    ∀ caller, ¬(calls caller).HasTarget trace caller .published →
      ∀ site writes, .called caller site writes ∈ trace →
        site.catalog.SamePublic (site.catalog.writeAll writes) := by
  have discreet := run.discreet begins standard undisturbed
  refine ⟨fun id dataset half found shown => ?_, fun key edition half found shown => ?_, discreet,
    fun caller differs site writes member => ?_⟩
  · exact discreet.dataset_vouched (run.catalog ▸ found) shown
  · exact discreet.edition_vouched (run.catalog ▸ found) shown
  · obtain ⟨_, _, ledger⟩ := run.exists_ledger begins fun call site member slot => by
      rw [undisturbed call site member]
      rfl
    have orderly := ledger.orderly caller
    exact Catalog.samePublic_of_orderly (standard caller) orderly (fun version put published =>
      differs (Amendment.hasTarget_of_mem orderly put published)) member

/-- The first version of the sample is published while the second one is associated. -/
theorem DisturbedRuns.only_published_versions_are_shown_sample :
    let calls : Bool → Amendment
      | true => .sample "1" .published
      | false => .sample "2" .associated
    let start := sampleOfTwo calls
    start.Begins calls ∧ (∀ caller, (calls caller).machine.handlers = {}) ∧
    ∃ trace last, DisturbedRuns start trace last ∧
      (∀ call site, .outside call site ∈ trace → call.writes site.now site.catalog = []) ∧
      ((last.site.catalog.datasets.get? "cpih01").bind (·.current)).isSome = true ∧
      ¬(calls false).HasTarget trace false .published ∧
      (∀ id dataset half, last.site.catalog.datasets.get? id = some dataset →
        dataset.current = some half →
          half.Vouched start.site.catalog id (trace.flatMap Happening.writes)) ∧
      (∀ key edition half, last.site.catalog.editions.get? key = some edition →
        edition.current = some half →
          half.Vouched start.site.catalog key (trace.flatMap Happening.writes)) ∧
      Write.Discreet start.site.catalog (trace.flatMap Happening.writes) ∧
      ∀ caller, ¬(calls caller).HasTarget trace caller .published →
        ∀ site writes, .called caller site writes ∈ trace →
          site.catalog.SamePublic (site.catalog.writeAll writes) := by
  intro calls start
  have filed : start.site.catalog.WellFiled := by
    refine Site.wellFiled_sample.writeAll fun change member => ?_
    simp only [List.mem_cons, List.not_mem_nil, or_false] at member
    rcases member with rfl | rfl <;> trivial
  have begins : start.Begins calls := ⟨fun _ => rfl, filed, fun _ => rfl⟩
  have standard (caller : Bool) : (calls caller).machine.handlers = {} := by cases caller <;> rfl
  let turns := List.replicate 9 true ++ List.replicate 8 false ++ List.replicate 5 true
  obtain ⟨trace, alone, run⟩ := exists_runs_goOn Site.answers_perform start turns
  have undisturbed (call : StoreCall) (site : Site) (member : .outside call site ∈ trace) :
      call.writes site.now site.catalog = [] :=
    absurd member (Happening.not_outside_of_alone alone call site)
  have shown : (((turns.foldl goOn start).site.catalog.datasets.get? "cpih01").bind
      (·.current)).isSome = true := by
    decide +kernel
  have differs : ¬(calls false).HasTarget trace false .published := by
    rintro ⟨_, _, _, _, -, -, -, target⟩
    cases target
  exact ⟨begins, standard, trace, _, run.disturbed, undisturbed, shown, differs,
    DisturbedRuns.only_published_versions_are_shown begins standard run.disturbed undisturbed⟩

end System

end ReleaseCatalog
