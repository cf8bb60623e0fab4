/-
The cascades of many requests to one dataset. A request that associates a version lets the store
update the dataset in place, but one that publishes a version overwrites the dataset with a document
that it made of what it had read at its start, and others may have written the dataset meanwhile.
Nothing is lost by that: all that a cascade changes on the Next half a publication sets anew, and
what it does not set, no cascade changes. So a publication of a stale document is, but for the date,
one of the document that it overwrites.
-/

import ReleaseCatalog.Proofs.Concurrency.Tallies
import ReleaseCatalog.Proofs.Workflow.Republishing

namespace ReleaseCatalog

variable {ι : Type}

/-! ### What cascades leave alone -/

/-- The half without what cascades write. -/
def DatasetHalf.lasting (half : DatasetHalf) : DatasetHalf :=
  { half with
    state := none
    collectionId := ""
    links := some { half.links.getD {} with latestVersion := none }
    lastUpdated := none }

namespace DatasetHalf

theorem lasting_associate (half : DatasetHalf) (now : Timestamp) (state : State)
    (version : Version) : (half.associate now state version).lasting = half.lasting := rfl

theorem lasting_publish (half : DatasetHalf) (now : Timestamp) (version : Version) :
    (half.publish now version).lasting = half.lasting := rfl

/-- A publication sets anew all that cascades write. -/
theorem undated_publish_of_lasting {half other : DatasetHalf} (same : half.lasting = other.lasting)
    (now later : Timestamp) (version : Version) :
    (half.publish now version).undated = (other.publish later version).undated := by
  have anew (half : DatasetHalf) : (half.publish now version).undated =
      (half.lasting.publish later version).undated := rfl
  rw [anew half, same]
  rfl

end DatasetHalf

namespace Dataset

/-- A promotion of a dataset with a Next half is one of that half. -/
theorem promote_of_next {dataset : Dataset} {next : DatasetHalf} (found : dataset.next = some next)
    (now : Timestamp) (version : Version) :
    dataset.promote now version =
      ⟨dataset.id, some (next.publish now version), some (next.publish now version)⟩ := by
  unfold promote authorisedHalf
  rw [found]
  rfl

/-- The dataset has a Next half, in which all that cascades do not write is as it is given. -/
def Keeps (half : DatasetHalf) (dataset : Dataset) : Prop :=
  dataset.next.map DatasetHalf.lasting = some half

/-- What a request does to its dataset when it has written the version. -/
inductive Cascade where
  | association (version : Version)
  | publication (version : Version)

namespace Cascade

/-- The version that was written. -/
def version : Cascade → Version
  | association version | publication version => version

/-- The state that the request asks for. -/
def target : Cascade → State
  | association _ => .associated
  | publication _ => .published

/-- The dataset after the cascade. The store files a dataset that it is given under its key. -/
def apply (id : String) (now : Timestamp) (cascade : Cascade) (dataset : Dataset) : Dataset :=
  match cascade with
  | association version => dataset.associateNext id now .associated version
  | publication version => { dataset.promote now version with id := id }

/-- The dataset after cascades, one after another. -/
def applyAll (id : String) (now : Timestamp) (cascades : List Cascade) (dataset : Dataset) :
    Dataset :=
  cascades.foldl (fun dataset cascade => cascade.apply id now dataset) dataset

variable {half : DatasetHalf} {dataset other : Dataset}

theorem applyAll_concat (id : String) (now : Timestamp) (cascades : List Cascade)
    (cascade : Cascade) (dataset : Dataset) :
    applyAll id now (cascades ++ [cascade]) dataset =
      cascade.apply id now (applyAll id now cascades dataset) :=
  List.foldl_concat ..

theorem keeps_apply (keeps : dataset.Keeps half) (id : String) (now : Timestamp)
    (cascade : Cascade) : (cascade.apply id now dataset).Keeps half := by
  obtain ⟨next, found, rfl⟩ := Option.map_eq_some_iff.mp keeps
  cases cascade with
  | association version =>
    unfold apply associateNext
    rw [found]
    exact congrArg some (next.lasting_associate now .associated version)
  | publication version =>
    show Keeps next.lasting { dataset.promote now version with id := id }
    rw [promote_of_next found]
    exact congrArg some (next.lasting_publish now version)

theorem keeps_applyAll (keeps : dataset.Keeps half) (id : String) (now : Timestamp)
    (cascades : List Cascade) : (applyAll id now cascades dataset).Keeps half := by
  induction cascades generalizing dataset with
  | nil => exact keeps
  | cons first rest inductionHypothesis =>
    exact inductionHypothesis (keeps_apply keeps id now first)

/-- An association goes by the dataset as it stands. -/
theorem undated_association (same : dataset.undated = other.undated) (id : String)
    (now later : Timestamp) (version : Version) :
    (apply id now (.association version) dataset).undated =
      (apply id later (.association version) other).undated := by
  have anew (dataset : Dataset) : (apply id now (.association version) dataset).undated =
      (apply id later (.association version) dataset.undated).undated := by
    rcases dataset with ⟨name, _ | current, _ | next⟩ <;> rfl
  rw [anew dataset, same]
  rcases other with ⟨name, _ | current, _ | next⟩ <;> rfl

/-- A publication goes by nothing that cascades change, so the dataset may be a stale one. -/
theorem undated_publication (keeps : dataset.Keeps half) (others : other.Keeps half) (id : String)
    (now later : Timestamp) (version : Version) :
    (apply id now (.publication version) dataset).undated =
      (apply id later (.publication version) other).undated := by
  obtain ⟨next, found, lasting⟩ := Option.map_eq_some_iff.mp keeps
  obtain ⟨otherNext, otherFound, otherLasting⟩ := Option.map_eq_some_iff.mp others
  have same := DatasetHalf.undated_publish_of_lasting (lasting.trans otherLasting.symm) now later
    version
  simp only [apply, promote_of_next found, promote_of_next otherFound, undated, Option.map_some,
    same]

end Cascade

end Dataset

/-! ### The cascades in a trace -/

open Dataset (Cascade)

/-- The request may bring this cascade to the dataset: it is a request for a version of the dataset,
it asks for the state by the version that it has read, and it has written the version of the
cascade. -/
structure Amendment.Brings (amendment : Amendment) (trace : List (Happening ι)) (caller : ι)
    (id : String) (cascade : Cascade) : Prop where
  asked : ∃ details selector stored, amendment.identifiers.resolve = .ok details ∧
    details.datasetId = id ∧ Happening.Accomplished trace caller
      (.getVersion details.datasetId details.edition details.number selector) stored ∧
    (Version.combine stored amendment.update).state = some cascade.target
  written : ∃ path current candidate selector tag,
    Happening.Accomplished trace caller (.updateVersion path current candidate selector) tag ∧
      cascade.version = { candidate with eTag := tag }

/-- The cascades that requests have brought to a dataset, in the order of their writes. -/
inductive Happening.Cascades (calls : ι → Amendment) (id : String) :
    List (Happening ι) → List Cascade → Prop
  | begun : Cascades calls id [] []
  | elsewhere {trace : List (Happening ι)} {cascades : List Cascade} {happening : Happening ι} :
    Cascades calls id trace cascades → (∀ document, .dataset id document ∉ happening.writes) →
      Cascades calls id (trace ++ [happening]) cascades
  | brought {trace : List (Happening ι)} {cascades : List Cascade} {caller : ι} {site : Site}
      {document : Dataset} {cascade : Cascade} :
    Cascades calls id trace cascades → (calls caller).Brings trace caller id cascade →
      Cascades calls id (trace ++ [.called caller site [.dataset id document]])
        (cascades ++ [cascade])

theorem Happening.Cascades.append_elsewhere {calls : ι → Amendment} {id : String}
    {trace happenings : List (Happening ι)} {cascades : List Cascade}
    (told : Cascades calls id trace cascades)
    (apart : ∀ document, .dataset id document ∉ happenings.flatMap writes) :
    Cascades calls id (trace ++ happenings) cascades := by
  induction happenings generalizing trace with
  | nil => rwa [List.append_nil]
  | cons first rest inductionHypothesis =>
    rw [List.append_cons]
    refine inductionHypothesis (told.elsewhere fun document member => ?_) fun document member => ?_
    · exact apart document (List.mem_append_left _ member)
    · exact apart document (List.mem_append_right _ member)

/-! ### The upkeep of a dataset -/

variable {calls : ι → Amendment} {trace happenings : List (Happening ι)} {id : String}
  {initial : Dataset} {half : DatasetHalf}

/-- A request may bring the cascade that its tally shows. -/
theorem Amendment.brings_of_evidence {amendment : Amendment} {caller : ι}
    {details : VersionDetails} {tally : Tally} {cascade : Cascade}
    (evidence : amendment.Evidence trace caller tally)
    (named : amendment.identifiers.resolve = .ok details)
    (targets : tally.Targets amendment.update cascade.target)
    (written : tally.persisted = some cascade.version) :
    amendment.Brings trace caller details.datasetId cascade where
  asked := by
    obtain ⟨stored, chosen, target⟩ := targets
    obtain ⟨other, selector, resolved, done⟩ := evidence.chosen chosen
    cases named.symm.trans resolved
    exact ⟨details, selector, stored, named, rfl, done, target⟩
  written := evidence.persisted written

/-- Whoever has called the store has found the dataset with a Next half of one kind, and the stored
dataset is what the cascades have made of the initial one. -/
structure Dataset.Upkeep (calls : ι → Amendment) (id : String) (initial : Dataset)
    (half : DatasetHalf) (catalog : Catalog) (trace : List (Happening ι)) : Prop where
  seen {caller : ι} {site : Site} {writes : List Write} : .called caller site writes ∈ trace →
    ∃ dataset, site.catalog.datasets.get? id = some dataset ∧ dataset.Keeps half
  told : ∃ cascades stored, Happening.Cascades calls id trace cascades ∧
    catalog.datasets.get? id = some stored ∧ stored.Keeps half ∧
    ∀ now, stored.undated = (Cascade.applyAll id now cascades initial).undated

/-- A dataset that a request has read has kept its Next half. -/
theorem Dataset.Upkeep.keeps_of_read {catalog : Catalog} {caller : ι} {amendment : Amendment}
    {details : VersionDetails} {tally : Tally} {document : Dataset}
    (upkeep : Upkeep calls details.datasetId initial half catalog trace)
    (named : amendment.identifiers.resolve = .ok details)
    (evidence : amendment.Evidence trace caller tally) (read : tally.dataset = some document) :
    document.Keeps half := by
  obtain ⟨other, resolved, site, member, answered⟩ := evidence.dataset read
  cases named.symm.trans resolved
  obtain ⟨dataset, found, keeps⟩ := upkeep.seen member
  cases found.symm.trans (Catalog.getDataset_eq_ok_iff.mp answered)
  exact keeps

/-- What a request writes for the dataset is, but for the date, a cascade applied to what is stored
there, whatever the request had read. -/
theorem Dataset.Upkeep.exists_cascade {site : Site} {caller : ι} {tally : Tally} {call : Call}
    {writes : List Write} {stored document : Dataset}
    (upkeep : Upkeep calls id initial half site.catalog trace)
    (evidence : (calls caller).Evidence trace caller tally)
    (fine : (calls caller).conduct.fine tally call) (begun : writes <+: site.callWrites call)
    (found : site.catalog.datasets.get? id = some stored) (kept : stored.Keeps half)
    (member : .dataset id document ∈ writes) :
    ∃ cascade : Cascade, writes = [.dataset id document] ∧
      (calls caller).Brings trace caller id cascade ∧ document.Keeps half ∧
      ∀ now other, stored.undated = Dataset.undated other → other.Keeps half →
        document.undated = (cascade.apply id now other).undated := by
  obtain ⟨details, persisted, named, rfl, written, rfl, brought⟩ :=
    Amendment.dataset_of_mem_writes fine begun member
  rcases brought with ⟨targets, dataset, _, read, rfl⟩ | ⟨targets, existing, here, rfl⟩
  · -- What was read may be stale by now, but it has kept the half, and no more is needed of it.
    have keeps := upkeep.keeps_of_read named evidence read
    exact ⟨.publication persisted, rfl,
      Amendment.brings_of_evidence evidence named targets written,
      Cascade.keeps_apply keeps _ _ (.publication persisted),
      fun now other _ others => Cascade.undated_publication keeps others _ _ now persisted⟩
  · cases found.symm.trans here
    exact ⟨.association persisted, rfl,
      Amendment.brings_of_evidence evidence named targets written,
      Cascade.keeps_apply kept _ _ (.association persisted),
      fun now other same _ => Cascade.undated_association same _ _ now persisted⟩

section Turns

variable [DecidableEq ι] {site last : Site} {tallies later : ι → Tally}

/-- Whatever happens next, the upkeep of the dataset goes on. -/
theorem Dataset.Upkeep.step (upkeep : Upkeep calls id initial half site.catalog trace)
    (keeps : initial.Keeps half)
    (evidence : ∀ caller, (calls caller).Evidence trace caller (tallies caller))
    (turn : System.Turn calls site tallies happenings last later)
    (undisturbed : ∀ call site, .outside call site ∈ happenings → ∀ document,
      Write.dataset id document ∉ call.writes site.now site.catalog) :
    Upkeep calls id initial half last.catalog (trace ++ happenings) := by
  obtain ⟨cascades, stored, told, found, kept, same⟩ := upkeep.told
  refine ⟨fun {caller seen writes} member => ?_, ?_⟩
  · rcases List.mem_append.mp member with earlier | now
    · exact upkeep.seen earlier
    · cases turn.site_eq now
      exact ⟨stored, found, kept⟩
  rcases turn.dataset_cases undisturbed with
    ⟨caller, call, writes, document, rfl, fine, begun, member, put⟩ | ⟨none, unchanged⟩
  · obtain ⟨cascade, rfl, brings, keepsOn, alike⟩ :=
      upkeep.exists_cascade (evidence caller) fine begun found kept member
    refine ⟨cascades ++ [cascade], document, told.brought brings, put, keepsOn, fun now => ?_⟩
    rw [Cascade.applyAll_concat]
    exact alike now _ (same now) (Cascade.keeps_applyAll keeps id now cascades)
  · exact ⟨cascades, stored, told.append_elsewhere none, unchanged.trans found, kept, same⟩

end Turns

namespace System

variable [DecidableEq ι] {start last : System ι (Result Version)}

/-- The upkeep goes on in every run, beside the tallies of the requests. -/
theorem DisturbedRuns.upkeep
    (ready : ∀ caller, start.progress caller = .ready (calls caller).request)
    (standard : ∀ caller, (calls caller).machine.handlers = {}) (keeps : initial.Keeps half)
    (found : start.site.catalog.datasets.get? id = some initial)
    (run : DisturbedRuns start trace last)
    (undisturbed : ∀ call site, .outside call site ∈ trace → ∀ document,
      Write.dataset id document ∉ call.writes site.now site.catalog) :
    (∃ tallies, last.Tallied calls trace tallies) ∧
      Dataset.Upkeep calls id initial half last.site.catalog trace := by
  induction run with
  | begun =>
    exact ⟨⟨_, tallied_begun ready standard⟩, fun member => absurd member List.not_mem_nil,
      [], initial, .begun, found, keeps, fun _ => rfl⟩
  | step _ step inductionHypothesis =>
    obtain ⟨⟨tallies, tallied⟩, upkeep⟩ := inductionHypothesis fun call site member =>
      undisturbed call site (List.mem_append_left _ member)
    obtain ⟨later, turn, next⟩ := tallied.step step
    refine ⟨⟨later, next⟩, upkeep.step keeps tallied.evidence turn fun call site member => ?_⟩
    exact undisturbed call site (List.mem_append_right _ member)

/-- No cascade to a dataset is lost. Any number of requests with the built-in handlers run at one
disturbed site, with their calls interleaved in any way, and nobody else writes the dataset, which
had a Next half. Then at any moment the stored dataset is, but for its dates, what the cascades that
the requests have brought to it so far make of the initial one, in the order of their writes. -/
theorem DisturbedRuns.cascades_are_never_lost
    (ready : ∀ caller, start.progress caller = .ready (calls caller).request)
    (standard : ∀ caller, (calls caller).machine.handlers = {})
    (found : start.site.catalog.datasets.get? id = some initial) (edited : initial.next ≠ none)
    (run : DisturbedRuns start trace last)
    (undisturbed : ∀ call site, .outside call site ∈ trace → ∀ document,
      Write.dataset id document ∉ call.writes site.now site.catalog) :
    ∃ cascades stored, Happening.Cascades calls id trace cascades ∧
      last.site.catalog.datasets.get? id = some stored ∧
      ∀ now, stored.undated = (Cascade.applyAll id now cascades initial).undated := by
  obtain ⟨next, half⟩ := Option.ne_none_iff_exists'.mp edited
  have keeps : initial.Keeps next.lasting := by
    unfold Dataset.Keeps
    rw [half]
    rfl
  obtain ⟨cascades, stored, told, stands, -, same⟩ :=
    (run.upkeep ready standard keeps found undisturbed).2.told
  exact ⟨cascades, stored, told, stands, same⟩

end System

/-! ### A sample of two versions -/

/-- The sample with a second version in its collection. -/
def Site.sampleOfTwo : Site :=
  Site.sample.make [
    .record "import-2" { id := "import-2", state := some .associated },
    .version ⟨"cpih01", "time-series", 2⟩ {
      id := "import-2", datasetId := "cpih01", edition := "time-series", number := 2
      type := "filterable", state := some .associated, releaseDate := "2024-02-14"
      links := some { version := some ⟨"2", "/versions/2"⟩ } }]

/-- A request that brings a version of the sample into a state, when its downloads exist. -/
def Amendment.sample (number : String) (target : State) : Amendment :=
  ⟨{}, ⟨"cpih01", "time-series", number⟩, { state := some target }, { hasDownloads := true }⟩

/-- Two requests at the sample that have not begun. -/
def System.sampleOfTwo (calls : Bool → Amendment) : System Bool (Result Version) :=
  ⟨Site.sampleOfTwo, fun caller => .ready (calls caller).request⟩

/-- The first version is published while the second one is associated, just before the dataset,
which was read before that, is overwritten. -/
theorem System.DisturbedRuns.cascades_are_never_lost_sample :
    let calls : Bool → Amendment
      | true => .sample "1" .published
      | false => .sample "2" .associated
    let start := System.sampleOfTwo calls
    ∃ initial trace last,
      (∀ caller, start.progress caller = .ready (calls caller).request) ∧
      (∀ caller, (calls caller).machine.handlers = {}) ∧
      start.site.catalog.datasets.get? "cpih01" = some initial ∧ initial.next ≠ none ∧
      System.DisturbedRuns start trace last ∧
      (∀ call site, .outside call site ∈ trace → ∀ document,
        Write.dataset "cpih01" document ∉ call.writes site.now site.catalog) ∧
      (∀ caller, (last.progress caller).value?.isSome = true) ∧
      ∃ cascades stored, Happening.Cascades calls "cpih01" trace cascades ∧
        last.site.catalog.datasets.get? "cpih01" = some stored ∧
        ∀ now, stored.undated = (Cascade.applyAll "cpih01" now cascades initial).undated := by
  intro calls start
  let turns := List.replicate 9 true ++ List.replicate 8 false ++ List.replicate 5 true
  obtain ⟨trace, alone, run⟩ := System.exists_runs_goOn Site.answers_perform start turns
  have standard (caller : Bool) : (calls caller).machine.handlers = {} := by cases caller <;> rfl
  have found : start.site.catalog.datasets.get? "cpih01" = some
      { id := "cpih01", next := some { id := "cpih01", type := "filterable" } } := by
    decide +kernel
  have undisturbed (call : StoreCall) (site : Site) (member : .outside call site ∈ trace)
      (document : Dataset) : Write.dataset "cpih01" document ∉ call.writes site.now site.catalog :=
    absurd member (Happening.not_outside_of_alone alone call site)
  have returned (caller : Bool) : ((turns.foldl System.goOn start).progress caller).value?.isSome =
      true := by
    cases caller <;> decide +kernel
  exact ⟨_, trace, _, fun _ => rfl, standard, found, Option.some_ne_none _, run.disturbed,
    undisturbed, returned, System.DisturbedRuns.cascades_are_never_lost (fun _ => rfl) standard
      found (Option.some_ne_none _) run.disturbed undisturbed⟩

end ReleaseCatalog
