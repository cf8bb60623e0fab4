/-
What the writes of a request to the parents go by. A request with the built-in handlers reads the
dataset and the version, chooses its cascade by what it has read, and writes the version once; all
that it writes to the parents after that is made of the dataset that it read and of the version that
it wrote. This file keeps the tally of these documents, and shows that a request goes by it from its
first call to its last, whatever it is answered.
-/

import ReleaseCatalog.Proofs.Program.Conduct
import ReleaseCatalog.Proofs.Workflow.Cascade

namespace ReleaseCatalog

open Program (Abides Conduct)

/-- What a request was answered so far, as far as its writes go by it. -/
structure Tally where
  /-- The dataset as it was read. -/
  dataset : Option Dataset := none
  /-- The version as it was read first, by which the cascade is chosen. -/
  chosen : Option Version := none
  /-- The version as it was written. -/
  persisted : Option Version := none
  editionDone : Bool := false
  datasetDone : Bool := false

namespace Tally

/-- The tally after an action was answered. -/
def after (tally : Tally) : (action : Action) → action.Answer → Tally
  | .store (.getDataset _), .ok dataset => { tally with dataset := some dataset }
  | .store (.getVersion _ _ _ _), .ok version =>
    { tally with chosen := some (tally.chosen.getD version) }
  | .store (.updateVersion _ _ candidate _), .ok tag =>
    { tally with persisted := some { candidate with eTag := tag } }
  | .store (.upsertEdition _ _ _), .ok () => { tally with editionDone := true }
  | .store (.upsertDataset _ _), .ok () => { tally with datasetDone := true }
  | _, _ => tally

/-- The update asks for the state, by the version that was read first. -/
def Targets (update : Version) (tally : Tally) (state : State) : Prop :=
  ∃ stored, tally.chosen = some stored ∧ (Version.combine stored update).state = some state

/-- What a request for a version may do by its tally: read its own documents, write the version
once, and then write the parents with what it has read and written. -/
def Allows (details : VersionDetails) (update : Version) (tally : Tally) : Action → Prop
  | .store (.getDataset id) => id = details.datasetId
  | .store (.getVersion datasetId edition number _) =>
    (⟨datasetId, edition, number⟩ : VersionKey) = details.slot
  | .store (.updateVersion _ _ _ _) => tally.persisted = none
  | .store (.associate id state version) =>
    id = details.datasetId ∧ state = .associated ∧ tally.persisted = some version ∧
      tally.Targets update .associated
  | .store (.upsertEdition datasetId edition document) =>
    datasetId = details.datasetId ∧ edition = details.edition ∧ tally.Targets update .published ∧
      ∃ (stored : Edition) (now : Timestamp) (persisted : Version),
        tally.persisted = some persisted ∧
          stored.promote now persisted.versionLink = (document, .ok ())
  | .store (.upsertDataset id document) =>
    id = details.datasetId ∧ tally.Targets update .published ∧
      ∃ (dataset : Dataset) (now : Timestamp) (persisted : Version),
        tally.dataset = some dataset ∧ tally.persisted = some persisted ∧
          document = dataset.promote now persisted
  | .store (.addVersion _) => False
  | _ => True

/-- The conduct of a request for a version. -/
def conduct (details : VersionDetails) (update : Version) : Conduct Action.Answer Tally where
  fine := Allows details update
  after := after

/-- The request has written the version, and its edition and its dataset if it was to be
published. -/
structure Completes (update version : Version) (tally : Tally) : Prop where
  chosen : ∃ stored, tally.chosen = some stored
  persisted : tally.persisted = some version
  promoted : tally.Targets update .published →
    tally.editionDone = true ∧ tally.datasetDone = true

end Tally

/-! ### The steps of a request -/

section Steps

variable {details : VersionDetails} {update : Version} {tally : Tally}

namespace TransitionContext

variable {context : TransitionContext} {type : DatasetType} {persisted : Version}

/-- An attempt to write a candidate is in the tally when it succeeds. -/
theorem abides_write (path : WritePath) (current candidate : Version)
    (fresh : tally.persisted = none) :
    Abides (Tally.conduct details update)
      (fun result later => (∀ version, result = .ok version →
          later = { tally with persisted := some version }) ∧
        ∀ error, result = .error error → later = tally)
      (context.write path current candidate) tally := by
  refine ⟨fresh, fun answer => ?_⟩
  match answer with
  | .error error => exact ⟨fun _ => nofun, fun _ _ => rfl⟩
  | .ok tag =>
    refine ⟨fun version same => ?_, fun _ => nofun⟩
    cases same
    rfl

/-- Reading the version again does not change what was chosen. -/
theorem warrants_refresh (same : context.details = details) (chosen : tally.chosen ≠ none) :
    context.refresh.Warrants (Tally.conduct details update) (fun _ later => later = tally)
      tally := by
  have reads : (Steps.store (.getVersion context.details.datasetId context.details.edition
      context.details.number context.ifMatch)).Warrants (Tally.conduct details update)
      (fun _ later => later = tally) tally := by
    refine Steps.warrants_store (same ▸ rfl) fun version => ?_
    rcases tally with ⟨dataset, _ | stored, persisted, edition, promoted⟩
    · exact absurd rfl chosen
    · rfl
  refine Steps.warrants_andThen reads ?_
  rintro current _ rfl
  exact Steps.warrants_require fun _ _ => Steps.warrants_ok rfl

/-- Whichever attempt succeeds, the version is written once. -/
theorem warrants_persist (same : context.details = details) (path : WritePath)
    (fresh : tally.persisted = none) (chosen : tally.chosen ≠ none) :
    (context.persist path).Warrants (Tally.conduct details update)
      (fun version later => later = { tally with persisted := some version }) tally := by
  refine warrants_persist_of ((abides_write path _ _ fresh).mono fun _ _ ends => ends) trivial rfl
    (warrants_refresh same chosen) ?_
  rintro pair _ rfl
  exact (abides_write path _ _ fresh).mono fun _ _ ends => ends.1

theorem warrants_generateDownloads :
    (context.generateDownloads type).Warrants (Tally.conduct details update)
      (fun _ later => later = tally) tally :=
  Steps.warrants_require fun _ _ => ⟨trivial, fun _ _ _ => rfl⟩

/-- Downloads, if they are asked for, are not in the tally. -/
theorem warrants_generateDownloads_if (asked : Bool) {ends : Version → Tally → Prop}
    (held : ends persisted tally) :
    Steps.Warrants (Tally.conduct details update) ends
      (if asked then
        (context.generateDownloads type).andThen fun () => .done (.ok persisted)
      else .done (.ok persisted)) tally := by
  cases asked with
  | false => exact Steps.warrants_ok held
  | true =>
    refine Steps.warrants_andThen warrants_generateDownloads ?_
    rintro _ _ rfl
    exact Steps.warrants_ok held

/-- The edition is promoted with the version that was written. -/
theorem warrants_promoteEdition (same : context.details = details)
    (written : tally.persisted = some persisted) (published : tally.Targets update .published) :
    (context.promoteEdition persisted).Warrants (Tally.conduct details update)
      (fun _ later => later = { tally with editionDone := true }) tally := by
  have reads : (Steps.store (.getEdition context.details.datasetId context.details.edition
      ETag.any)).Warrants (Tally.conduct details update)
      (fun (_ : Edition) later => later = tally) tally :=
    Steps.warrants_store trivial fun _ => rfl
  refine Steps.warrants_andThen reads ?_
  rintro edition _ rfl
  refine Steps.warrants_act_bind trivial fun now => ?_
  rcases promoted : edition.promote now persisted.versionLink with ⟨document, error | ⟨⟩⟩
  · exact Steps.warrants_error error
  · rw [same]
    exact Steps.warrants_store ⟨rfl, rfl, published, edition, now, persisted, written, promoted⟩
      fun _ => rfl

theorem warrants_publishInstance (isStatic : Bool) :
    (publishInstance isStatic persisted).Warrants (Tally.conduct details update)
      (fun _ later => later = tally) tally := by
  cases isStatic with
  | true => exact Steps.warrants_ok rfl
  | false => exact Steps.warrants_store trivial fun _ => rfl

/-- The dataset is promoted as it was read, with the version that was written. -/
theorem warrants_promoteDataset (same : context.details = details)
    (read : tally.dataset = some context.dataset) (written : tally.persisted = some persisted)
    (published : tally.Targets update .published) :
    (context.promoteDataset persisted).Warrants (Tally.conduct details update)
      (fun _ later => later = { tally with datasetDone := true }) tally := by
  refine Steps.warrants_act_bind trivial fun now => ?_
  rw [same]
  exact Steps.warrants_store ⟨rfl, published, context.dataset, now, persisted, read, written, rfl⟩
    fun _ => rfl

end TransitionContext

namespace Handler

variable {context : TransitionContext} {type : DatasetType} {persisted : Version}

/-- What the built-in handler of the state that is asked for does after it has written the version
goes by the tally. -/
theorem warrants_afterwards {target : State} (same : context.details = details)
    (read : tally.dataset = some context.dataset) (written : tally.persisted = some persisted)
    (targets : ∀ state, tally.Targets update state ↔ state = target) :
    ((Handler.default target).afterwards context type persisted).Warrants
      (Tally.conduct details update) (Tally.Completes update) tally := by
  obtain ⟨stored, chosen, -⟩ := (targets target).mpr rfl
  have unpublished (differ : State.published ≠ target) : Tally.Completes update persisted tally :=
    ⟨⟨stored, chosen⟩, written, fun published => absurd ((targets _).mp published) differ⟩
  cases target with
  | created | submitted | completed | editionConfirmed | detached | failed =>
    exact Steps.warrants_ok (unpublished State.noConfusion)
  | associated =>
    unfold Handler.default afterwards
    cases type.isStatic with
    | true => exact Steps.warrants_ok (unpublished State.noConfusion)
    | false =>
      have associates : (Steps.store (.associate context.details.datasetId .associated
          persisted)).Warrants (Tally.conduct details update) (fun _ later => later = tally)
          tally :=
        Steps.warrants_store ⟨congrArg _ same, rfl, written, (targets _).mpr rfl⟩ fun _ => rfl
      refine Steps.warrants_andThen associates ?_
      rintro _ _ rfl
      cases context.hasDownloads with
      | true => exact Steps.warrants_ok (unpublished State.noConfusion)
      | false =>
        exact TransitionContext.warrants_generateDownloads_if true (unpublished State.noConfusion)
  | published =>
    have published : tally.Targets update .published := (targets _).mpr rfl
    refine Steps.warrants_andThen
      (TransitionContext.warrants_promoteEdition same written published) ?_
    rintro _ _ rfl
    refine Steps.warrants_andThen (TransitionContext.warrants_publishInstance type.isStatic) ?_
    rintro _ _ rfl
    have looks : (Steps.store (.getDatasetType context.details.datasetId true)).Warrants
        (Tally.conduct details update)
        (fun (_ : DatasetType) later => later = { tally with editionDone := true })
        { tally with editionDone := true } :=
      Steps.warrants_store trivial fun _ => rfl
    refine Steps.warrants_andThen looks ?_
    rintro datasetType _ rfl
    refine Steps.warrants_andThen
      (TransitionContext.warrants_promoteDataset same read written published) ?_
    rintro _ _ rfl
    exact TransitionContext.warrants_generateDownloads_if _
      ⟨⟨stored, chosen⟩, written, fun _ => ⟨rfl, rfl⟩⟩

end Handler

namespace Machine

variable {machine : Machine} {identifiers : VersionIdentifiers} {options : AmendOptions}

/-- The steps under the lock go by the tally from an empty one. -/
theorem warrants_locked (standard : machine.handlers = {}) :
    (machine.locked details update options).Warrants (Tally.conduct details update)
      (Tally.Completes update) {} := by
  have reads : (Steps.store (.getDataset details.datasetId)).Warrants
      (Tally.conduct details update)
      (fun (dataset : Dataset) later => later = { dataset := some dataset }) {} :=
    Steps.warrants_store rfl fun _ => rfl
  refine Steps.warrants_andThen reads ?_
  rintro dataset _ rfl
  have checks : (Steps.store (.checkEdition details.datasetId details.edition none)).Warrants
      (Tally.conduct details update) (fun _ later => later = { dataset := some dataset })
      { dataset := some dataset } :=
    Steps.warrants_store trivial fun _ => rfl
  refine Steps.warrants_andThen checks ?_
  rintro _ _ rfl
  have finds : (Steps.store
      (.getVersion details.datasetId details.edition details.number options.ifMatch)).Warrants
      (Tally.conduct details update)
      (fun (current : Version) later =>
        later = { dataset := some dataset, chosen := some current })
      { dataset := some dataset } :=
    Steps.warrants_store rfl fun _ => rfl
  refine Steps.warrants_andThen finds ?_
  rintro current _ rfl
  refine Steps.warrants_require fun checked passed => ?_
  obtain ⟨valid, target, type, state, -⟩ := TransitionContext.checkMove_eq_ok_iff.mp passed
  simp only [state, standard]
  let context := machine.context details update options dataset current
  rw [Handler.steps_eq _ _ valid]
  refine Steps.warrants_require fun type resolved => ?_
  refine Steps.warrants_andThen
    (context.warrants_persist rfl (.forStatic type.isStatic) rfl (Option.some_ne_none _)) ?_
  rintro persisted _ rfl
  refine Handler.warrants_afterwards rfl rfl rfl fun wanted => ⟨?_, ?_⟩
  · rintro ⟨stored, read, asked⟩
    cases read
    exact Option.some_inj.mp (asked.symm.trans state)
  · rintro rfl
    exact ⟨current, rfl, state⟩

end Machine

end Steps

/-! ### Requests -/

/-- A request goes by its tally from its first call to its last. -/
theorem Machine.abides_amend {machine : Machine} {identifiers : VersionIdentifiers}
    {details : VersionDetails} {update : Version} {options : AmendOptions}
    (standard : machine.handlers = {}) (named : identifiers.resolve = .ok details) :
    Abides (Request.conduct (Tally.conduct details update))
      (fun result later => ∀ version, result = .ok version →
        Tally.Completes update version later)
      (machine.amend identifiers update options) {} := by
  unfold amend
  simp only [named]
  by_cases unknown : update.type ≠ "" ∧ DatasetType.resolve? update.type = none
  · rw [if_pos unknown]
    exact fun _ => nofun
  · rw [if_neg unknown]
    refine Request.abides_amendVersion trivial (fun answer => ?_) (warrants_locked standard)
    cases answer <;> rfl

end ReleaseCatalog
