/-
The version that an edition and its dataset call their latest. A request that publishes a version
promotes the edition first and the dataset later, both with the version that it has written, and the
locks are for one version each: requests for other versions of the edition may come in between. So
each of the two documents names the version of whoever promoted it last. Where one request promoted
both last they agree, and otherwise they may not: of two requests that pass each other between the
two promotions, each is the last on one of the documents.
-/

import ReleaseCatalog.Proofs.Concurrency.Cascades

namespace ReleaseCatalog

variable {ι : Type}

/-! ### The latest version of a document -/

/-- The target of the link to the latest version that the public sees on the edition. -/
def Edition.latestHref (edition : Edition) : Option String :=
  ((edition.current.bind (·.links)).bind (·.latestVersion)).map (·.href)

/-- The target of the link to the latest version that the public sees on the dataset. -/
def Dataset.latestHref (dataset : Dataset) : Option String :=
  ((dataset.current.bind (·.links)).bind (·.latestVersion)).map (·.href)

/-- A promoted edition names the version with which it was promoted. -/
theorem Edition.latestHref_promote {edition promoted : Edition} {now : Timestamp}
    {version : Version} (done : edition.promote now version.versionLink = (promoted, .ok ())) :
    promoted.latestHref = some version.versionHref := by
  obtain ⟨target, link, aimed⟩ := (edition.promote_eq_ok_iff now).mp (congrArg Prod.snd done)
  have href : version.versionHref = target.href := by
    unfold Version.versionHref
    rw [link]
  rw [link, edition.promote_of_leads now aimed] at done
  rw [href]
  cases done
  rfl

/-- A promoted dataset names the version with which it was promoted. -/
theorem Dataset.latestHref_promote (dataset : Dataset) (now : Timestamp) (version : Version) :
    (dataset.promote now version).latestHref = some version.versionHref := rfl

/-- The write puts a document into the edition. -/
def Write.IsOfEdition (key : String × String) (change : Write) : Prop :=
  ∃ document, change = .edition key document

/-- The write puts a document into the dataset. -/
def Write.IsOfDataset (id : String) (change : Write) : Prop :=
  ∃ document, change = .dataset id document

namespace Catalog

/-- The latest version that the public sees on an edition of the catalog. -/
def latestOfEdition (key : String × String) (catalog : Catalog) : Option String :=
  (catalog.editions.get? key).bind Edition.latestHref

/-- The latest version that the public sees on a dataset of the catalog. -/
def latestOfDataset (id : String) (catalog : Catalog) : Option String :=
  (catalog.datasets.get? id).bind Dataset.latestHref

theorem latestOfEdition_writeAll_elsewhere {key : String × String} (catalog : Catalog)
    {writes : List Write} (apart : ∀ change ∈ writes, ¬change.IsOfEdition key) :
    (catalog.writeAll writes).latestOfEdition key = catalog.latestOfEdition key := by
  unfold latestOfEdition
  rcases catalog.get?_editions_writeAll writes key with ⟨document, member, -⟩ | ⟨-, same⟩
  · exact absurd ⟨document, rfl⟩ (apart _ member)
  · rw [same]

theorem latestOfDataset_writeAll_elsewhere {id : String} (catalog : Catalog)
    {writes : List Write} (apart : ∀ change ∈ writes, ¬change.IsOfDataset id) :
    (catalog.writeAll writes).latestOfDataset id = catalog.latestOfDataset id := by
  unfold latestOfDataset
  rcases catalog.get?_datasets_writeAll writes id with ⟨document, member, -⟩ | ⟨-, same⟩
  · exact absurd ⟨document, rfl⟩ (apart _ member)
  · rw [same]

theorem latestOfEdition_put (catalog : Catalog) (key : String × String) (document : Edition) :
    (catalog.writeAll [.edition key document]).latestOfEdition key = document.latestHref := by
  simp [latestOfEdition, write, Collection.get?_put_self]

theorem latestOfDataset_put (catalog : Catalog) (id : String) (document : Dataset) :
    (catalog.writeAll [.dataset id document]).latestOfDataset id = document.latestHref := by
  simp [latestOfDataset, write, Collection.get?_put_self]

end Catalog

/-! ### Who wrote last -/

/-- The caller was the last to make a write of a kind. -/
def Happening.LastToWrite (kind : Write → Prop) (trace : List (Happening ι)) (caller : ι) : Prop :=
  ∃ earlier site writes later, trace = earlier ++ .called caller site writes :: later ∧
    (∃ change ∈ writes, kind change) ∧ ∀ change ∈ later.flatMap Happening.writes, ¬kind change

theorem Happening.LastToWrite.append {kind : Write → Prop} {trace more : List (Happening ι)}
    {caller : ι} (last : LastToWrite kind trace caller)
    (apart : ∀ change ∈ more.flatMap Happening.writes, ¬kind change) :
    LastToWrite kind (trace ++ more) caller := by
  obtain ⟨earlier, site, writes, later, rfl, wrote, rest⟩ := last
  refine ⟨earlier, site, writes, later ++ more, by simp, wrote, fun change member => ?_⟩
  rw [List.flatMap_append] at member
  rcases List.mem_append.mp member with before | after
  · exact rest change before
  · exact apart change after

section Naming

variable [DecidableEq ι] {calls : ι → Amendment} {site last : Site} {tallies later : ι → Tally}
  {trace happenings : List (Happening ι)} {kind : Write → Prop} {href? : Catalog → Option String}

/-- Nobody has made a write of the kind, or the catalog names the version of whoever did so last. -/
def NamesLast (kind : Write → Prop) (href? : Catalog → Option String) (tallies : ι → Tally)
    (catalog : Catalog) (trace : List (Happening ι)) : Prop :=
  (∀ change ∈ trace.flatMap Happening.writes, ¬kind change) ∨
    ∃ caller version, Happening.LastToWrite kind trace caller ∧
      (tallies caller).persisted = some version ∧ href? catalog = some version.versionHref

/-- It stays so if every request names its own version where it writes. -/
theorem NamesLast.step (names : NamesLast kind href? tallies site.catalog trace)
    (turn : System.Turn calls site tallies happenings last later)
    (elsewhere : ∀ writes : List Write, (∀ change ∈ writes, ¬kind change) →
      href? (site.catalog.writeAll writes) = href? site.catalog)
    (here : ∀ caller call writes change, (calls caller).conduct.fine (tallies caller) call →
      writes <+: site.callWrites call → change ∈ writes → kind change →
      ∃ version, (tallies caller).persisted = some version ∧
        href? (site.catalog.writeAll writes) = some version.versionHref)
    (undisturbed : ∀ call seen, .outside call seen ∈ happenings →
      ∀ change ∈ call.writes seen.now seen.catalog, ¬kind change) :
    NamesLast kind href? later last.catalog (trace ++ happenings) := by
  by_cases touched : ∃ change ∈ happenings.flatMap Happening.writes, kind change
  · obtain ⟨change, member, ofKind⟩ := touched
    right
    cases turn with
    | quiet nothing => rcases nothing with rfl | ⟨caller, rfl⟩ <;> cases member
    | outside call =>
      rw [List.flatMap_singleton] at member
      exact absurd ofKind (undisturbed call _ List.mem_cons_self change member)
    | @call caller call answer writes _ fine begun made =>
      rw [List.flatMap_singleton] at member
      obtain ⟨version, written, named⟩ := here caller call writes change fine begun member ofKind
      refine ⟨caller, version, ⟨trace, site, writes, [], rfl, ⟨change, member, ofKind⟩, by simp⟩,
        ?_, made ▸ named⟩
      rw [Function.update_self]
      exact Amendment.persisted_afterCall fine written answer
  · -- Whoever was last before is so still, and has not written another version since.
    have apart (change : Write) (member : change ∈ happenings.flatMap Happening.writes) :
        ¬kind change := fun ofKind => touched ⟨change, member, ofKind⟩
    rcases names with nobody | ⟨caller, version, latest, written, named⟩
    · refine .inl fun change member => ?_
      rw [List.flatMap_append] at member
      rcases List.mem_append.mp member with before | after
      · exact nobody change before
      · exact apart change after
    · refine .inr ⟨caller, version, latest.append apart, turn.persisted written, ?_⟩
      rw [turn.catalog, elsewhere _ apart]
      exact named

end Naming

/-! ### Requests that publish -/

namespace Amendment

/-- Whatever version of an edition the request reads, it asks to publish it. -/
def Publishes (amendment : Amendment) (trace : List (Happening ι)) (caller : ι)
    (key : String × String) : Prop :=
  ∀ number selector stored,
    Happening.Accomplished trace caller (.getVersion key.1 key.2 number selector) stored →
    (Version.combine stored amendment.update).state = some .published

/-- Whoever asks to publish whatever it reads does so. -/
theorem publishes_of_state {amendment : Amendment} (trace : List (Happening ι)) (caller : ι)
    (key : String × String) (asks : amendment.update.state = some .published) :
    amendment.Publishes trace caller key := by
  intro number selector stored _
  show (amendment.update.state <|> stored.state) = some .published
  rw [asks]
  rfl

variable {amendment : Amendment} {trace more : List (Happening ι)} {caller : ι}
  {key : String × String} {number : UInt32} {tally : Tally}

theorem Publishes.of_append (publishes : amendment.Publishes (trace ++ more) caller key) :
    amendment.Publishes trace caller key :=
  fun number selector stored done => publishes number selector stored done.mono

/-- What was read first was to be published. -/
theorem Publishes.state_eq (publishes : amendment.Publishes trace caller key)
    (named : amendment.identifiers.resolve = .ok ⟨key.1, key.2, number⟩)
    (evidence : amendment.Evidence trace caller tally) {stored : Version}
    (chosen : tally.chosen = some stored) :
    (Version.combine stored amendment.update).state = some .published := by
  obtain ⟨details, selector, resolved, done⟩ := evidence.chosen chosen
  cases named.symm.trans resolved
  exact publishes _ _ _ done

variable {site : Site} {call : Call} {writes : List Write} {change : Write}

/-- A request that writes the edition promotes it with the version that it has written. -/
theorem latestOfEdition_of_writes (fine : amendment.conduct.fine tally call)
    (begun : writes <+: site.callWrites call) (member : change ∈ writes)
    (ofEdition : change.IsOfEdition key) :
    ∃ version, tally.persisted = some version ∧
      (site.catalog.writeAll writes).latestOfEdition key = some version.versionHref := by
  obtain ⟨document, rfl⟩ := ofEdition
  obtain ⟨-, version, -, -, written, rfl, stored, promoted, now, done, rfl⟩ :=
    edition_of_mem_writes fine begun member
  refine ⟨version, written, ?_⟩
  rw [Catalog.latestOfEdition_put]
  show promoted.latestHref = some version.versionHref
  exact Edition.latestHref_promote done

/-- A request that publishes and writes the dataset promotes it with the version that it has
written. -/
theorem latestOfDataset_of_writes (publishes : amendment.Publishes trace caller key)
    (named : amendment.identifiers.resolve = .ok ⟨key.1, key.2, number⟩)
    (evidence : amendment.Evidence trace caller tally) (fine : amendment.conduct.fine tally call)
    (begun : writes <+: site.callWrites call) (member : change ∈ writes)
    (ofDataset : change.IsOfDataset key.1) :
    ∃ version, tally.persisted = some version ∧
      (site.catalog.writeAll writes).latestOfDataset key.1 = some version.versionHref := by
  obtain ⟨document, rfl⟩ := ofDataset
  obtain ⟨-, version, -, -, written, rfl, brought⟩ := dataset_of_mem_writes fine begun member
  refine ⟨version, written, ?_⟩
  rw [Catalog.latestOfDataset_put]
  rcases brought with ⟨-, dataset, now, -, rfl⟩ | ⟨⟨stored, chosen, associated⟩, -⟩
  · exact Dataset.latestHref_promote dataset now version
  · cases (publishes.state_eq named evidence chosen).symm.trans associated

/-- A request that was to publish and has returned a version has promoted both its parents. -/
theorem promotes_of_completes {version : Version} (publishes : amendment.Publishes trace caller key)
    (named : amendment.identifiers.resolve = .ok ⟨key.1, key.2, number⟩)
    (evidence : amendment.Evidence trace caller tally)
    (completes : tally.Completes amendment.update version) :
    (∃ change ∈ trace.flatMap Happening.writes, change.IsOfEdition key) ∧
      ∃ change ∈ trace.flatMap Happening.writes, change.IsOfDataset key.1 := by
  obtain ⟨stored, chosen⟩ := completes.chosen
  obtain ⟨editionDone, datasetDone⟩ :=
    completes.promoted ⟨stored, chosen, publishes.state_eq named evidence chosen⟩
  constructor
  · obtain ⟨details, document, resolved, site, member, -⟩ := evidence.editionDone editionDone
    cases named.symm.trans resolved
    exact ⟨_, List.mem_flatMap.mpr ⟨_, member, List.mem_cons_self⟩, document.stamp, rfl⟩
  · obtain ⟨details, document, resolved, site, member, -⟩ := evidence.datasetDone datasetDone
    cases named.symm.trans resolved
    exact ⟨_, List.mem_flatMap.mpr ⟨_, member, List.mem_cons_self⟩, _, rfl⟩

end Amendment

namespace System

variable [DecidableEq ι] {calls : ι → Amendment} {start last : System ι (Result Version)}
  {trace : List (Happening ι)} {key : String × String}

/-- In every run of requests that publish versions of one edition the edition and the dataset name
the versions of those who wrote them last. -/
theorem DisturbedRuns.names_last
    (ready : ∀ caller, start.progress caller = .ready (calls caller).request)
    (standard : ∀ caller, (calls caller).machine.handlers = {})
    (named : ∀ caller, ∃ number, (calls caller).identifiers.resolve = .ok ⟨key.1, key.2, number⟩)
    (run : DisturbedRuns start trace last)
    (publishes : ∀ caller, (calls caller).Publishes trace caller key)
    (undisturbed : ∀ call site, .outside call site ∈ trace →
      ∀ change ∈ call.writes site.now site.catalog,
        ¬change.IsOfEdition key ∧ ¬change.IsOfDataset key.1) :
    ∃ tallies, last.Tallied calls trace tallies ∧
      NamesLast (Write.IsOfEdition key) (Catalog.latestOfEdition key) tallies last.site.catalog
        trace ∧
      NamesLast (Write.IsOfDataset key.1) (Catalog.latestOfDataset key.1) tallies
        last.site.catalog trace := by
  induction run with
  | begun =>
    exact ⟨_, tallied_begun ready standard, .inl fun _ member => absurd member List.not_mem_nil,
      .inl fun _ member => absurd member List.not_mem_nil⟩
  | @step trace happenings middle last _ step inductionHypothesis =>
    have before (caller : ι) : (calls caller).Publishes trace caller key :=
      (publishes caller).of_append
    obtain ⟨tallies, tallied, ofEdition, ofDataset⟩ := inductionHypothesis before
      fun call site member => undisturbed call site (List.mem_append_left _ member)
    obtain ⟨later, turn, next⟩ := tallied.step step
    refine ⟨later, next, ofEdition.step turn ?_ ?_ ?_, ofDataset.step turn ?_ ?_ ?_⟩
    · exact fun writes apart => Catalog.latestOfEdition_writeAll_elsewhere _ apart
    · exact fun caller call writes change fine begun member ofKind =>
        Amendment.latestOfEdition_of_writes fine begun member ofKind
    · exact fun call site member change made =>
        (undisturbed call site (List.mem_append_right _ member) change made).1
    · exact fun writes apart => Catalog.latestOfDataset_writeAll_elsewhere _ apart
    · intro caller call writes change fine begun member ofKind
      obtain ⟨number, resolved⟩ := named caller
      exact Amendment.latestOfDataset_of_writes (before caller) resolved (tallied.evidence caller)
        fine begun member ofKind
    · exact fun call site member change made =>
        (undisturbed call site (List.mem_append_right _ member) change made).2

/-- The edition and the dataset name the versions that were promoted last. Any number of requests
with the built-in handlers, but at least one, publish versions of one edition at one disturbed site,
with their calls interleaved in any way, nobody else writes the edition or its dataset, and all of
them have returned a version. Then the edition names the version of the request that wrote the
edition last, and the dataset that of the request that wrote the dataset last; so they name the same
version if that is one request. -/
theorem DisturbedRuns.latest_versions_are_promoted_last [Nonempty ι]
    (ready : ∀ caller, start.progress caller = .ready (calls caller).request)
    (standard : ∀ caller, (calls caller).machine.handlers = {})
    (named : ∀ caller, ∃ number, (calls caller).identifiers.resolve = .ok ⟨key.1, key.2, number⟩)
    (run : DisturbedRuns start trace last)
    (publishes : ∀ caller, (calls caller).Publishes trace caller key)
    (undisturbed : ∀ call site, .outside call site ∈ trace →
      ∀ change ∈ call.writes site.now site.catalog,
        ¬change.IsOfEdition key ∧ ¬change.IsOfDataset key.1)
    (returned : ∀ caller, ∃ version, last.progress caller = .ready (.done (.ok version))) :
    ∃ first second ofEdition ofDataset,
      Happening.LastToWrite (Write.IsOfEdition key) trace first ∧
      last.progress first = .ready (.done (.ok ofEdition)) ∧
      last.site.catalog.latestOfEdition key = some ofEdition.versionHref ∧
      Happening.LastToWrite (Write.IsOfDataset key.1) trace second ∧
      last.progress second = .ready (.done (.ok ofDataset)) ∧
      last.site.catalog.latestOfDataset key.1 = some ofDataset.versionHref ∧
      (first = second →
        last.site.catalog.latestOfEdition key = last.site.catalog.latestOfDataset key.1) := by
  obtain ⟨tallies, tallied, ofEdition, ofDataset⟩ :=
    run.names_last ready standard named publishes undisturbed
  have completes (caller : ι) : ∃ version,
      last.progress caller = .ready (.done (.ok version)) ∧
        (tallies caller).Completes (calls caller).update version := by
    obtain ⟨version, here⟩ := returned caller
    have ends := tallied.abides caller
    rw [here] at ends
    exact ⟨version, here, ends version rfl⟩
  -- Somebody has written each of the documents, as every request has promoted both.
  obtain ⟨caller⟩ := ‹Nonempty ι›
  obtain ⟨number, resolved⟩ := named caller
  obtain ⟨version, -, completed⟩ := completes caller
  obtain ⟨⟨edited, edition, isEdition⟩, changed, dataset, isDataset⟩ :=
    Amendment.promotes_of_completes (publishes caller) resolved (tallied.evidence caller) completed
  rcases ofEdition with nobody | ⟨first, firstVersion, lastOfEdition, wroteFirst, editionNames⟩
  · exact absurd isEdition (nobody edited edition)
  rcases ofDataset with nobody | ⟨second, secondVersion, lastOfDataset, wroteSecond, datasetNames⟩
  · exact absurd isDataset (nobody changed dataset)
  obtain ⟨ofEdition, firstDone, firstCompletes⟩ := completes first
  cases wroteFirst.symm.trans firstCompletes.persisted
  obtain ⟨ofDataset, secondDone, secondCompletes⟩ := completes second
  cases wroteSecond.symm.trans secondCompletes.persisted
  refine ⟨first, second, firstVersion, secondVersion, lastOfEdition, firstDone, editionNames,
    lastOfDataset, secondDone, datasetNames, ?_⟩
  rintro rfl
  cases wroteFirst.symm.trans wroteSecond
  exact editionNames.trans datasetNames.symm

end System

/-! ### Two requests that pass each other -/

/-- Each version of the sample is published by a request of its own. -/
def Amendment.publishBoth : Bool → Amendment
  | true => .sample "1" .published
  | false => .sample "2" .published

theorem Amendment.resolve_publishBoth (caller : Bool) :
    ∃ number, (publishBoth caller).identifiers.resolve = .ok ⟨"cpih01", "time-series", number⟩ := by
  cases caller
  · exact ⟨2, by cbv⟩
  · exact ⟨1, by cbv⟩

/-- The second version is published from first to last when the first one has promoted the edition
and not yet the dataset. Both requests return their versions, and the edition and the dataset are
left with different ones. -/
theorem System.exists_passing {answers : Site → (call : Call) → call.Answer → Site → Prop}
    (served : ∀ site call, answers site call (site.perform call).1 (site.perform call).2) :
    ∃ trace last, trace.filterMap Happening.outsider? = [] ∧
      Runs answers (sampleOfTwo Amendment.publishBoth) trace last ∧
      (∀ caller, ∃ version, last.progress caller = .ready (.done (.ok version))) ∧
      last.site.catalog.latestOfEdition ("cpih01", "time-series") = some "/versions/2" ∧
      last.site.catalog.latestOfDataset "cpih01" = some "/versions/1" := by
  let turns := List.replicate 9 true ++ List.replicate 14 false ++ List.replicate 5 true
  obtain ⟨trace, alone, run⟩ :=
    exists_runs_goOn served (sampleOfTwo Amendment.publishBoth) turns
  refine ⟨trace, _, alone, run, fun caller => ?_, by decide +kernel, by decide +kernel⟩
  have done : ((turns.foldl goOn (sampleOfTwo Amendment.publishBoth)).progress
      caller).value?.isSome = true := by
    cases caller <;> decide +kernel
  obtain ⟨version, value⟩ := Option.isSome_iff_exists.mp done
  exact ⟨version, Progress.value?_eq_some_iff.mp value⟩

/-- Both versions of the sample are published. -/
theorem System.DisturbedRuns.latest_versions_are_promoted_last_sample :
    let key := ("cpih01", "time-series")
    let start := System.sampleOfTwo Amendment.publishBoth
    ∃ trace last,
      (∀ caller, start.progress caller = .ready (Amendment.publishBoth caller).request) ∧
      (∀ caller, (Amendment.publishBoth caller).machine.handlers = {}) ∧
      (∀ caller, ∃ number,
        (Amendment.publishBoth caller).identifiers.resolve = .ok ⟨key.1, key.2, number⟩) ∧
      System.DisturbedRuns start trace last ∧
      (∀ caller, (Amendment.publishBoth caller).Publishes trace caller key) ∧
      (∀ call site, .outside call site ∈ trace →
        ∀ change ∈ call.writes site.now site.catalog,
          ¬change.IsOfEdition key ∧ ¬change.IsOfDataset key.1) ∧
      (∀ caller, ∃ version, last.progress caller = .ready (.done (.ok version))) ∧
      ∃ first second ofEdition ofDataset,
        Happening.LastToWrite (Write.IsOfEdition key) trace first ∧
        last.progress first = .ready (.done (.ok ofEdition)) ∧
        last.site.catalog.latestOfEdition key = some ofEdition.versionHref ∧
        Happening.LastToWrite (Write.IsOfDataset key.1) trace second ∧
        last.progress second = .ready (.done (.ok ofDataset)) ∧
        last.site.catalog.latestOfDataset key.1 = some ofDataset.versionHref ∧
        (first = second →
          last.site.catalog.latestOfEdition key = last.site.catalog.latestOfDataset key.1) := by
  intro key start
  obtain ⟨trace, last, alone, run, returned, -⟩ := System.exists_passing Site.answers_perform
  have standard (caller : Bool) : (Amendment.publishBoth caller).machine.handlers = {} := by
    cases caller <;> rfl
  have publishes (caller : Bool) : (Amendment.publishBoth caller).Publishes trace caller key :=
    Amendment.publishes_of_state trace caller key (by cases caller <;> rfl)
  have undisturbed (call : StoreCall) (site : Site) (member : .outside call site ∈ trace)
      (change : Write) (_ : change ∈ call.writes site.now site.catalog) :
      ¬change.IsOfEdition key ∧ ¬change.IsOfDataset key.1 :=
    absurd member (Happening.not_outside_of_alone alone call site)
  exact ⟨trace, last, fun _ => rfl, standard, Amendment.resolve_publishBoth, run.disturbed,
    publishes, undisturbed, returned,
    System.DisturbedRuns.latest_versions_are_promoted_last (fun _ => rfl) standard
      Amendment.resolve_publishBoth run.disturbed publishes undisturbed returned⟩

/-- The edition and the dataset need not agree on the latest version. Two requests publish the two
versions of the sample, nothing fails, nobody else is there, and both return their versions; but the
edition names the second version and the dataset the first one. -/
theorem System.Runs.latest_versions_may_differ :
    let key := ("cpih01", "time-series")
    let start := System.sampleOfTwo Amendment.publishBoth
    ∃ trace last,
      (∀ caller, start.progress caller = .ready (Amendment.publishBoth caller).request) ∧
      (∀ caller, (Amendment.publishBoth caller).machine.handlers = {}) ∧
      (∀ caller, ∃ number,
        (Amendment.publishBoth caller).identifiers.resolve = .ok ⟨key.1, key.2, number⟩) ∧
      (∀ caller, (Amendment.publishBoth caller).update.state = some .published) ∧
      System.Runs Site.Serves start trace last ∧
      (∀ call site, .outside call site ∉ trace) ∧
      (∀ caller, ∃ version, last.progress caller = .ready (.done (.ok version))) ∧
      last.site.catalog.latestOfEdition key = some "/versions/2" ∧
      last.site.catalog.latestOfDataset key.1 = some "/versions/1" := by
  intro key start
  obtain ⟨trace, last, alone, run, returned, ofEdition, ofDataset⟩ :=
    System.exists_passing fun _ call => Site.Serves.served call
  refine ⟨trace, last, fun _ => rfl, ?_, Amendment.resolve_publishBoth, ?_, run,
    Happening.not_outside_of_alone alone, returned, ofEdition, ofDataset⟩
  · intro caller
    cases caller <;> rfl
  · intro caller
    cases caller <;> rfl

end ReleaseCatalog
