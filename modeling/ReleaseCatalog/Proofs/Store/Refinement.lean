/-
The catalog in the tables of a database answers as the catalog in memory does. Each row is the text
of a document beside its tag, and since the text is read back as the document, the two columns
never part. A call does the same to the documents and to their rows, so that nobody who only asks
for operations and hears the answers can tell which of the two stores there is.
-/

import ReleaseCatalog.Proofs.Json.Documents
import ReleaseCatalog.Proofs.Store.Representation

namespace ReleaseCatalog

/-! ### Rows of documents -/

/-- The rows are those of the documents, each under the same key. -/
def Collection.AreRowsOf {κ ν ρ : Type} [DecidableEq κ] (rows : Collection κ ρ) (row : ν → ρ)
    (documents : Collection κ ν) : Prop :=
  ∀ key, rows.get? key = (documents.get? key).map row

namespace Collection.AreRowsOf

variable {κ ν ρ : Type} [DecidableEq κ] {rows : Collection κ ρ} {row : ν → ρ}
  {documents : Collection κ ν}

theorem put (are : rows.AreRowsOf row documents) (key : κ) (document : ν) :
    (rows.put key (row document)).AreRowsOf row (documents.put key document) := by
  intro other
  by_cases here : other = key
  · rw [here, get?_put_self, get?_put_self, Option.map_some]
  · rw [get?_put_other _ here, get?_put_other _ here, are other]

theorem modify (are : rows.AreRowsOf row documents) {alter : ρ → ρ} {change : ν → ν}
    (same : ∀ document, alter (row document) = row (change document)) (key : κ) :
    (rows.modify key alter).AreRowsOf row (documents.modify key change) := by
  intro other
  by_cases here : other = key
  · rw [here, get?_modify_self, get?_modify_self, are key, Option.map_map, Option.map_map]
    exact congrArg (fun change => (documents.get? key).map change) (funext same)
  · rw [get?_modify_other _ here, get?_modify_other _ here, are other]

end Collection.AreRowsOf

/-- The text of a dataset. -/
def Dataset.row (dataset : Dataset) : String :=
  dataset.toJson.render

/-- The row of an edition. -/
def Edition.row (edition : Edition) : TaggedRow :=
  ⟨edition.eTag, edition.toJson.render⟩

/-- The row of a version. -/
def Version.row (version : Version) : TaggedRow :=
  ⟨version.eTag, version.toJson.render⟩

/-- The row of an instance after its key. -/
def Instance.row (record : Instance) : InstanceRow :=
  ⟨record.state.map State.name, record.isPublished.toNat⟩

namespace Tables

/-- The tables hold the documents of a catalog, which are right about themselves. -/
structure Holds (tables : Tables) (catalog : Catalog) : Prop where
  datasets : tables.datasets.AreRowsOf Dataset.row catalog.datasets
  editions : tables.editions.AreRowsOf Edition.row catalog.editions
  versions : tables.versions.AreRowsOf Version.row catalog.versions
  instances : tables.instances.AreRowsOf Instance.row catalog.instances
  sound : catalog.IsSound

theorem holds_empty : Holds {} {} :=
  ⟨fun _ => rfl, fun _ => rfl, fun _ => rfl, fun _ => rfl, Catalog.isSound_empty⟩

/-- The text of a document is decoded as the document. -/
theorem decode_render {α : Type} {encode : α → Json} {read? : Json → Option α}
    (codec : Json.Codec encode read?) (document : α) :
    decode read? (encode document).render = .ok document := by
  unfold decode
  rw [codec.decode?_render]

/-! ### Answers of the calls that read -/

variable {tables : Tables} {catalog : Catalog}

theorem Holds.fetchDataset (holds : tables.Holds catalog) (id : String) :
    tables.fetchDataset id = catalog.getDataset id := by
  unfold Tables.fetchDataset Catalog.getDataset
  rw [holds.datasets id]
  cases catalog.datasets.get? id with
  | none => rfl
  | some dataset => exact decode_render Dataset.codec dataset

theorem Holds.getDatasetType (holds : tables.Holds catalog) (id : String) (authorised : Bool) :
    tables.getDatasetType id authorised = catalog.getDatasetType id authorised := by
  unfold Tables.getDatasetType Catalog.getDatasetType
  rw [holds.fetchDataset]
  cases catalog.getDataset id <;> rfl

theorem Holds.getEdition (holds : tables.Holds catalog) (datasetId edition selector : String) :
    tables.getEdition datasetId edition selector =
      catalog.getEdition datasetId edition selector := by
  unfold Tables.getEdition Catalog.getEdition
  rw [holds.editions (datasetId, edition)]
  cases catalog.editions.get? (datasetId, edition) with
  | none => rfl
  | some document =>
    show (decode Edition.ofJson? document.toJson.render >>= _) = _
    rw [decode_render Edition.codec]
    rfl

theorem Holds.checkEdition (holds : tables.Holds catalog) (datasetId edition : String)
    (state : Option State) :
    tables.checkEdition datasetId edition state =
      catalog.checkEdition datasetId edition state := by
  unfold Tables.checkEdition Catalog.checkEdition
  rw [holds.getEdition]
  cases catalog.getEdition datasetId edition ETag.any <;> rfl

theorem Holds.fetchVersion (holds : tables.Holds catalog) (slot : VersionKey) :
    tables.fetchVersion slot = .ok (catalog.versions.get? slot) := by
  unfold Tables.fetchVersion
  rw [holds.versions slot]
  cases catalog.versions.get? slot with
  | none => rfl
  | some version =>
    show (decode Version.ofJson? version.toJson.render).map some = _
    rw [decode_render Version.codec]
    rfl

theorem Holds.getVersion (holds : tables.Holds catalog) (slot : VersionKey) (selector : String) :
    tables.getVersion slot selector = catalog.getVersion slot selector := by
  unfold Tables.getVersion Catalog.getVersion
  rw [holds.fetchVersion]
  cases catalog.versions.get? slot <;> rfl

theorem Holds.getInstance (holds : tables.Holds catalog) (id : String) :
    tables.getInstance id = catalog.getInstance id := by
  unfold Tables.getInstance Catalog.getInstance
  rw [holds.instances id]
  cases found : catalog.instances.get? id with
  | none => rfl
  | some record =>
    obtain ⟨own, state, isPublished⟩ := record
    have named : own = id := holds.sound.recordId found
    subst named
    cases state with
    | none => cases isPublished <;> rfl
    | some state => cases state <;> cases isPublished <;> rfl

/-! ### Writes -/

/-- The tables after the row of a document was put into its table. -/
def write (tables : Tables) : Write → Tables
  | .dataset id document => { tables with datasets := tables.datasets.put id document.row }
  | .edition key document => { tables with editions := tables.editions.put key document.row }
  | .version slot document => { tables with versions := tables.versions.put slot document.row }
  | .record id document => { tables with instances := tables.instances.put id document.row }

/-- The tables after writes, one after another. -/
def writeAll (tables : Tables) (writes : List Write) : Tables :=
  writes.foldl write tables

theorem writeAll_nil (tables : Tables) : tables.writeAll [] = tables := rfl

theorem writeAll_cons (tables : Tables) (first : Write) (rest : List Write) :
    tables.writeAll (first :: rest) = (tables.write first).writeAll rest := rfl

theorem Holds.write (holds : tables.Holds catalog) {change : Write} (own : change.IsSound) :
    (tables.write change).Holds (catalog.write change) := by
  have sound : (catalog.writeAll [change]).IsSound :=
    holds.sound.writeAll fun other member => List.mem_singleton.mp member ▸ own
  cases change with
  | dataset id document =>
    exact ⟨holds.datasets.put id document, holds.editions, holds.versions, holds.instances, sound⟩
  | edition key document =>
    exact ⟨holds.datasets, holds.editions.put key document, holds.versions, holds.instances, sound⟩
  | version slot document =>
    exact ⟨holds.datasets, holds.editions, holds.versions.put slot document, holds.instances, sound⟩
  | record id document =>
    exact ⟨holds.datasets, holds.editions, holds.versions, holds.instances.put id document, sound⟩

/-- The same writes on both sides leave the tables with the documents of the catalog. -/
theorem Holds.writeAll (holds : tables.Holds catalog) {writes : List Write}
    (own : ∀ change ∈ writes, change.IsSound) :
    (tables.writeAll writes).Holds (catalog.writeAll writes) := by
  induction writes generalizing tables catalog with
  | nil => exact holds
  | cons first rest inductionHypothesis =>
    exact inductionHypothesis (holds.write (own first List.mem_cons_self))
      fun change member => own change (List.mem_cons_of_mem _ member)

/-! ### The calls that write -/

theorem Holds.associate (holds : tables.Holds catalog) (now : Timestamp) (id : String)
    (state : State) (version : Version) :
    tables.associate now id state version =
      ((catalog.associate now id state version).1,
        tables.writeAll ((StoreCall.associate id state version).writes now catalog)) := by
  unfold Tables.associate Catalog.associate
  rw [holds.fetchDataset]
  unfold Catalog.getDataset
  cases found : catalog.datasets.get? id with
  | none => simp only [StoreCall.writes, found, writeAll_nil]
  | some dataset =>
    have named : dataset.id = id := holds.sound.datasetId found
    subst named
    simp only [StoreCall.writes, found, writeAll_cons, writeAll_nil]
    rfl

theorem addVersion_eq (tables : Tables) (catalog : Catalog) (now : Timestamp) (version : Version) :
    tables.addVersion now version =
      ((catalog.addVersion now version).1,
        tables.writeAll ((StoreCall.addVersion version).writes now catalog)) := by
  unfold Tables.addVersion Catalog.addVersion
  by_cases backed : (version.stampNew now).hasInstance = true
  · simp only [StoreCall.writes, backed, if_true]
    rfl
  · simp only [StoreCall.writes, backed, Bool.false_eq_true, if_false]
    rfl

/-- The condition of an update holds for the tag of the document that was read: the row of the
document is found in its slot and has its tag. -/
theorem Holds.updateWhereTag (holds : tables.Holds catalog) {slot : VersionKey} {existing : Version}
    (found : catalog.versions.get? slot = some existing) (row : TaggedRow) :
    Tables.updateWhereTag tables.versions existing.key existing.eTag row =
      (1, tables.versions.put slot row) := by
  have filed : existing.key = slot := holds.sound.filed slot existing found
  unfold Tables.updateWhereTag
  rw [filed, holds.versions slot, found]
  exact if_pos rfl

/-- The state of a version is carried over to the row of its instance, if there is one. -/
theorem writeAll_mirrorWrites (rows : tables.instances.AreRowsOf Instance.row catalog.instances)
    (id : String) (state : Option State) :
    tables.writeAll (catalog.mirrorWrites id state) =
      { tables with
        instances :=
          if id ≠ "" then
            tables.instances.modify id fun row => { row with state := state.map State.name }
          else tables.instances } := by
  unfold Catalog.mirrorWrites Collection.modify
  rw [rows id]
  by_cases empty : id = ""
  · simp [empty, writeAll]
  · cases catalog.instances.get? id <;> simp [empty, writeAll, write, Instance.row]

theorem writeAll_versionWrites (rows : tables.instances.AreRowsOf Instance.row catalog.instances)
    (path : WritePath) (slot : VersionKey) (stored : Version) :
    tables.writeAll (catalog.versionWrites path slot stored) =
      { tables with
        versions := tables.versions.put slot stored.row
        instances :=
          if path = .generic ∧ stored.id ≠ "" then
            tables.instances.modify stored.id fun row =>
              { row with state := stored.state.map State.name }
          else tables.instances } := by
  have mirrored := @writeAll_mirrorWrites (tables.write (.version slot stored)) catalog rows
    stored.id stored.state
  cases path with
  | static => simp [Catalog.versionWrites, writeAll, write]
  | generic =>
    show (tables.write (.version slot stored)).writeAll _ = _
    rw [mirrored]
    simp [write]

theorem Holds.updateVersion (holds : tables.Holds catalog) (now : Timestamp) (path : WritePath)
    (current candidate : Version) (selector : String) :
    tables.updateVersion now path current candidate selector =
      ((catalog.updateVersion now path current candidate selector).1,
        tables.writeAll
          ((StoreCall.updateVersion path current candidate selector).writes now catalog)) := by
  cases found : catalog.versions.get? current.key with
  | none => simp [Tables.updateVersion, Catalog.updateVersion, StoreCall.writes, holds.fetchVersion,
      found, Tables.writeAll]
  | some existing =>
    rw [Catalog.writes_updateVersion_of_found found, Catalog.updateVersion_of_found found]
    unfold Tables.updateVersion ETag.check
    rw [holds.fetchVersion, found]
    simp only [holds.updateWhereTag found]
    by_cases admitted : ETag.admits selector existing.eTag = true
    · simp only [admitted, if_true]
      rw [writeAll_versionWrites holds.instances]
      rfl
    · simp [admitted, Tables.writeAll]

theorem Holds.publishInstance (holds : tables.Holds catalog) (id : String) :
    tables.publishInstance id =
      ((catalog.publishInstance id).1, tables.writeAll (catalog.publishWrites id)) := by
  unfold Tables.publishInstance Catalog.publishInstance Catalog.publishWrites
  rw [holds.instances id]
  cases catalog.instances.get? id <;> rfl

/-- Every call is answered alike, and does to the rows what it does to the documents. -/
theorem Holds.perform_eq (holds : tables.Holds catalog) (now : Timestamp) (call : StoreCall) :
    tables.perform now call =
      ((catalog.perform now call).1, tables.writeAll (call.writes now catalog)) := by
  cases call with
  | getDataset id => exact congrArg (·, tables) (holds.fetchDataset id)
  | getDatasetType id authorised => exact congrArg (·, tables) (holds.getDatasetType id authorised)
  | getEdition datasetId edition selector =>
    exact congrArg (·, tables) (holds.getEdition datasetId edition selector)
  | checkEdition datasetId edition state =>
    exact congrArg (·, tables) (holds.checkEdition datasetId edition state)
  | getVersion datasetId edition number selector =>
    exact congrArg (·, tables) (holds.getVersion ⟨datasetId, edition, number⟩ selector)
  | getInstance id => exact congrArg (·, tables) (holds.getInstance id)
  | upsertDataset | upsertEdition => rfl
  | associate id state version => exact holds.associate now id state version
  | addVersion version => exact addVersion_eq tables catalog now version
  | updateVersion path current candidate selector =>
    exact holds.updateVersion now path current candidate selector
  | publishInstance id => exact holds.publishInstance id

/-- After every call the tables hold what the catalog holds. -/
theorem Holds.perform (holds : tables.Holds catalog) (now : Timestamp) (call : StoreCall) :
    (tables.perform now call).2.Holds (catalog.perform now call).2 := by
  rw [holds.perform_eq, Catalog.perform_eq_writeAll]
  exact holds.writeAll fun _ member => holds.sound.isSound_of_mem_writes member

end Tables

/-! ### Runs of operations -/

namespace World

/-- A store in tables that holds what a store in memory holds, with the same locks. -/
def Refines (concrete abstract : World) : Prop :=
  concrete.background = [] ∧ abstract.background = [] ∧ concrete.arena = abstract.arena ∧
    ∃ tables catalog, concrete.backend = .tables tables ∧ abstract.backend = .memory catalog ∧
      tables.Holds catalog

/-- One operation at the same time is answered, and alike, and the stores still hold the same. -/
theorem Refines.operate {concrete abstract : World} (refines : concrete.Refines abstract)
    (now : Timestamp) (operation : Operation) :
    (∃ answer, ({ concrete with today := now }.operate operation).1 = some answer ∧
        ({ abstract with today := now }.operate operation).1 = some answer) ∧
      ({ concrete with today := now }.operate operation).2.Refines
        ({ abstract with today := now }.operate operation).2 := by
  obtain ⟨alone, alsoAlone, arena, tables, catalog, inTables, inMemory, holds⟩ := refines
  have silent : concrete.backend.IsSilent := inTables ▸ Backend.isSilent_tables tables
  have alsoSilent : abstract.backend.IsSilent := inMemory ▸ Backend.isSilent_memory catalog
  obtain ⟨clock, ran⟩ := @operate_eq { concrete with today := now } alone silent operation
  obtain ⟨otherClock, alsoRan⟩ := @operate_eq { abstract with today := now } alsoAlone alsoSilent
    operation
  rw [ran, alsoRan]
  cases operation with
  | store call =>
    refine ⟨⟨_, rfl, congrArg some ?_⟩, alone, alsoAlone, arena, (tables.perform now call).2,
      (catalog.perform now call).2, ?_, ?_, holds.perform now call⟩
    · show (abstract.backend.perform now call).1 = (concrete.backend.perform now call).1
      rw [inTables, inMemory]
      exact congrArg (·.1) (holds.perform_eq now call).symm
    · show (concrete.backend.perform now call).2 = _
      rw [inTables]
      rfl
    · show (abstract.backend.perform now call).2 = _
      rw [inMemory]
      rfl
  | acquire kind key =>
    refine ⟨⟨_, rfl, congrArg some ?_⟩, alone, alsoAlone, ?_, tables, catalog, inTables, inMemory,
      holds⟩
    · exact congrArg (fun arena => (Arena.tryAlone arena key).1) arena.symm
    · exact congrArg (fun arena => (Arena.tryAlone arena key).2) arena
  | release kind token =>
    refine ⟨⟨(), rfl, rfl⟩, alone, alsoAlone, ?_, tables, catalog, inTables, inMemory, holds⟩
    exact congrArg (fun arena => (Arena.release arena token).2) arena

/-- Operations one after another are all answered, and alike. -/
theorem Refines.operateAll {concrete abstract : World} (refines : concrete.Refines abstract)
    (visits : List (Timestamp × Operation)) :
    (concrete.operateAll visits).1 = (abstract.operateAll visits).1 ∧
      (∀ answered ∈ (concrete.operateAll visits).1, answered.2.isSome) ∧
      (concrete.operateAll visits).2.Refines (abstract.operateAll visits).2 := by
  induction visits generalizing concrete abstract with
  | nil => exact ⟨rfl, fun _ member => absurd member List.not_mem_nil, refines⟩
  | cons visit rest inductionHypothesis =>
    obtain ⟨now, operation⟩ := visit
    obtain ⟨⟨answer, answered, alike⟩, still⟩ := refines.operate now operation
    obtain ⟨later, each, last⟩ := inductionHypothesis still
    rw [operateAll_cons, operateAll_cons, answered, alike, later]
    rw [later] at each
    exact ⟨rfl, List.forall_mem_cons.mpr ⟨rfl, each⟩, last⟩

theorem refines_fresh (patience : Duration) :
    (fresh patience (.tables {})).Refines (fresh patience (.memory {})) :=
  ⟨rfl, rfl, rfl, {}, {}, rfl, rfl, Tables.holds_empty⟩

end World

namespace Tables

variable {tables : Tables} {catalog : Catalog}

/-- The tag column of a version is the tag in its document. -/
theorem Holds.eTag_version (holds : tables.Holds catalog) {slot : VersionKey} {row : TaggedRow}
    (found : tables.versions.get? slot = some row) :
    ∃ version, decode Version.ofJson? row.document = .ok version ∧ row.eTag = version.eTag := by
  rw [holds.versions slot, Option.map_eq_some_iff] at found
  obtain ⟨version, -, rfl⟩ := found
  exact ⟨version, decode_render Version.codec version, rfl⟩

/-- The tag column of an edition is the tag in its document. -/
theorem Holds.eTag_edition (holds : tables.Holds catalog) {key : String × String} {row : TaggedRow}
    (found : tables.editions.get? key = some row) :
    ∃ edition, decode Edition.ofJson? row.document = .ok edition ∧ row.eTag = edition.eTag := by
  rw [holds.editions key, Option.map_eq_some_iff] at found
  obtain ⟨edition, -, rfl⟩ := found
  exact ⟨edition, decode_render Edition.codec edition, rfl⟩

end Tables

namespace World

/-- A store in tables answers every operation of a sequence as one in memory does, errors and tags
included. The tag columns are at any time the tags in the documents beside them; so an update
changes one row whenever the version that it is to replace was read before it. -/
theorem operateAll_tables_eq_memory (patience : Duration)
    (visits : List (Timestamp × Operation)) :
    ((fresh patience (.tables {})).operateAll visits).1 =
        ((fresh patience (.memory {})).operateAll visits).1 ∧
      (∀ answered ∈ ((fresh patience (.tables {})).operateAll visits).1, answered.2.isSome) ∧
      ∃ tables, ((fresh patience (.tables {})).operateAll visits).2.backend = .tables tables ∧
        (∀ slot row, tables.versions.get? slot = some row →
          ∃ version, Tables.decode Version.ofJson? row.document = .ok version ∧
            row.eTag = version.eTag) ∧
        (∀ key row, tables.editions.get? key = some row →
          ∃ edition, Tables.decode Edition.ofJson? row.document = .ok edition ∧
            row.eTag = edition.eTag) ∧
        ∀ slot existing row, tables.fetchVersion slot = .ok (some existing) →
          (Tables.updateWhereTag tables.versions existing.key existing.eTag row).1 = 1 := by
  obtain ⟨same, answered, -, -, -, tables, catalog, inTables, -, holds⟩ :=
    (refines_fresh patience).operateAll visits
  refine ⟨same, answered, tables, inTables, fun slot row => holds.eTag_version,
    fun key row => holds.eTag_edition, fun slot existing row fetched => ?_⟩
  have found : catalog.versions.get? slot = some existing :=
    Except.ok.inj ((holds.fetchVersion slot).symm.trans fetched)
  rw [holds.updateWhereTag found]

end World

end ReleaseCatalog
