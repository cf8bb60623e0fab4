/-
What a caller cannot touch. Of an update only the part counts that a caller may set: the state, the
collection, the release date, the notes, the downloads and the spatial link. Identity, type, tag,
date and all other links may be given, but they are not read.

Two requests that ask for the same are therefore the same program, call by call. They fare alike in
every world, whatever its store answers, whatever fails in it and whoever else is there, at the
first attempt to write and at the second.
-/

import ReleaseCatalog.Proofs.Workflow.Cascade
import ReleaseCatalog.World.Schedule

namespace ReleaseCatalog

namespace Version

/-- The part of an update that a caller may set, and nothing else. -/
def asked (update : Version) : Version where
  state := update.state
  collectionId := update.collectionId
  releaseDate := update.releaseDate
  temporal := update.temporal
  alerts := update.alerts
  latestChanges := update.latestChanges
  usageNotes := update.usageNotes
  downloads := update.downloads
  links := (update.links.bind (·.spatial)).map fun spatial => { spatial := some spatial }

/-- Two updates agree in all that a caller may set. -/
structure AsksTheSame (first second : Version) : Prop where
  state : first.state = second.state
  collectionId : first.collectionId = second.collectionId
  releaseDate : first.releaseDate = second.releaseDate
  temporal : first.temporal = second.temporal
  alerts : first.alerts = second.alerts
  latestChanges : first.latestChanges = second.latestChanges
  usageNotes : first.usageNotes = second.usageNotes
  downloads : first.downloads = second.downloads
  spatial : first.links.bind (·.spatial) = second.links.bind (·.spatial)

/-- The type of an update is empty or a known one. -/
def HasKnownType (update : Version) : Prop :=
  update.type = "" ∨ ∃ type, DatasetType.resolve? update.type = some type

theorem AsksTheSame.asked_eq {first second : Version} (same : first.AsksTheSame second) :
    first.asked = second.asked := by
  unfold asked
  rw [same.state, same.collectionId, same.releaseDate, same.temporal, same.alerts,
    same.latestChanges, same.usageNotes, same.downloads, same.spatial]

@[simp]
theorem spatial_asked (update : Version) :
    update.asked.links.bind (·.spatial) = update.links.bind (·.spatial) := by
  unfold asked
  cases update.links.bind (·.spatial) <;> rfl

/-- The merge reads of an update what a caller may set. -/
@[simp]
theorem combine_asked (stored update : Version) :
    combine stored update.asked = combine stored update := by
  unfold combine Merge.links
  rw [spatial_asked]
  rfl

end Version

/-! ### The steps under the lock -/

namespace TransitionContext

/-- The context with nothing but the part of the update that a caller may set. -/
def asked (context : TransitionContext) : TransitionContext :=
  { context with update := context.update.asked }

@[simp]
theorem refresh_asked (context : TransitionContext) : context.asked.refresh = context.refresh := by
  refine congrArg (Steps.andThen _) (funext fun (current : Version) => ?_)
  let checked (candidate : Version) : Steps (Result (Version × Version)) :=
    Steps.require (checkMove context.transitions current candidate) fun () =>
      .done (.ok (current, candidate))
  exact congrArg checked (current.combine_asked context.update)

/-- Both attempts write the same, and by the same tags. -/
@[simp]
theorem persist_asked (context : TransitionContext) (path : WritePath) :
    context.asked.persist path = context.persist path := by
  unfold persist
  rw [refresh_asked]
  rfl

theorem persistByType_asked (context : TransitionContext) :
    context.asked.persistByType = context.persistByType := by
  unfold persistByType
  simp only [persist_asked]
  rfl

theorem publish_asked (context : TransitionContext) : context.asked.publish = context.publish := by
  unfold publish
  simp only [persist_asked]
  rfl

theorem associate_asked (context : TransitionContext) :
    context.asked.associate = context.associate := by
  unfold associate
  simp only [persist_asked]
  rfl

end TransitionContext

/-- No handler reads more of an update. -/
theorem Handler.steps_asked (context : TransitionContext) (handler : Handler) :
    handler.steps context.asked = handler.steps context := by
  cases handler with
  | draft | terminal => exact context.persistByType_asked
  | editionConfirmed =>
    unfold Handler.steps
    rw [context.persistByType_asked]
    rfl
  | associated => exact context.associate_asked
  | published => exact context.publish_asked

/-! ### Requests -/

namespace Machine

variable (machine : Machine) (details : VersionDetails) (update : Version) (options : AmendOptions)

theorem move_asked (dataset : Dataset) (current : Version) :
    machine.move details update.asked options dataset current =
      machine.move details update options dataset current := by
  unfold move
  rw [Version.combine_asked]
  refine congrArg (Steps.require _) (funext fun _ => ?_)
  cases (Version.combine current update).state with
  | none => rfl
  | some target =>
    exact Handler.steps_asked (machine.context details update options dataset current)
      (machine.handlers.handler target)

theorem locked_asked :
    machine.locked details update.asked options = machine.locked details update options := by
  refine congrArg (Steps.andThen _) (funext fun dataset => ?_)
  refine congrArg (Steps.andThen _) (funext fun _ => ?_)
  exact congrArg (Steps.andThen _) (funext fun current =>
    move_asked machine details update options dataset current)

theorem amendVersion_asked :
    machine.amendVersion details update.asked options =
      machine.amendVersion details update options := by
  unfold amendVersion lockedInTime
  simp only [locked_asked]

/-- A request reads the type of an update once, to refuse it when it is not known. -/
theorem amend_asked (identifiers : VersionIdentifiers) (known : update.HasKnownType) :
    machine.amend identifiers update.asked options = machine.amend identifiers update options := by
  have accepted : ¬(update.type ≠ "" ∧ DatasetType.resolve? update.type = none) := by
    rintro ⟨given, unknown⟩
    rcases known with empty | ⟨type, found⟩
    · exact given empty
    · cases unknown.symm.trans found
  have untyped : ¬(update.asked.type ≠ "" ∧ DatasetType.resolve? update.asked.type = none) :=
    fun refused => refused.1 rfl
  unfold amend
  simp only [if_neg accepted, if_neg untyped, amendVersion_asked]

/-- Requests whose updates agree in all that a caller may set, and name known types if any, are the
same request: in every world they have the same result and leave the same world. -/
theorem amend_ignores_protected_fields (identifiers : VersionIdentifiers) {first second : Version}
    (same : first.AsksTheSame second) (firstKnown : first.HasKnownType)
    (secondKnown : second.HasKnownType) :
    machine.amend identifiers first options = machine.amend identifiers second options ∧
      ∀ world : World, world.run (machine.amend identifiers first options) =
        world.run (machine.amend identifiers second options) := by
  have programs : machine.amend identifiers first options =
      machine.amend identifiers second options := by
    rw [← amend_asked machine first options identifiers firstKnown, same.asked_eq,
      amend_asked machine second options identifiers secondKnown]
  exact ⟨programs, fun world => congrArg world.run programs⟩

/-- A caller who forges whatever cannot be set is treated like one who leaves it out, also when the
first attempt to write meets a conflict. -/
theorem amend_ignores_protected_fields_sample :
    let plain : Version := { state := some .published, releaseDate := "2024-02-14" }
    let forged : Version := { plain with
      id := "import-2", datasetId := "cpih02", edition := "2024", number := 7, type := "static"
      lastUpdated := some .sample, eTag := "0d4f"
      links := some { self := some ⟨"", "/versions/7"⟩, version := some ⟨"7", "/versions/7"⟩ } }
    let machine : Machine := {}
    let identifiers : VersionIdentifiers := ⟨"cpih01", "time-series", "1"⟩
    let options : AmendOptions := { hasDownloads := true }
    let probe : Probe := Probe.pushFailure { inner := Site.sample.catalog } .updateVersion
      (.conflict "cpih01/time-series/1" "*")
    let world : World := { backend := .probed probe }
    forged.AsksTheSame plain ∧ forged.HasKnownType ∧ plain.HasKnownType ∧
      (machine.amend identifiers forged options = machine.amend identifiers plain options ∧
        ∀ world : World, world.run (machine.amend identifiers forged options) =
          world.run (machine.amend identifiers plain options)) ∧
      (world.run (machine.amend identifiers forged options)).1.map
        (fun result => result.toOption.map (·.id)) = some (some "import-1") := by
  intro plain forged machine identifiers options probe world
  have asks : forged.AsksTheSame plain := ⟨rfl, rfl, rfl, rfl, rfl, rfl, rfl, rfl, rfl⟩
  have forgedKnown : forged.HasKnownType := .inr ⟨.static, by decide⟩
  have plainKnown : plain.HasKnownType := .inl rfl
  exact ⟨asks, forgedKnown, plainKnown,
    amend_ignores_protected_fields machine options identifiers asks forgedKnown plainKnown,
    by decide +kernel⟩

end Machine

end ReleaseCatalog
