/-
Which instance a request marks published. Whether there is one to be marked is decided by the type
of the version that was read first; its name is that of the version that was written, which may have
been made of another reading. So the tally here keeps all versions that were read, and all instances
that were marked: a request that has read an imported version marks the instance of a version that
it has read, and it promotes the dataset only after that, or when it has read a static version. That
is so with whichever handlers.
-/

import ReleaseCatalog.Proofs.Program.Conduct
import ReleaseCatalog.Proofs.Workflow.Cascade

namespace ReleaseCatalog

open Program (Abides Conduct)

/-- What a request was answered so far, as far as the marking of instances goes by it. -/
structure Marking where
  /-- The versions that were read. -/
  read : List Version := []
  /-- The instances that were marked published. -/
  marked : List String := []

namespace Marking

/-- The tally after an action was answered. -/
def after (tally : Marking) : (action : Action) → action.Answer → Marking
  | .store (.getVersion _ _ _ _), .ok version => { tally with read := version :: tally.read }
  | .store (.publishInstance id), .ok () => { tally with marked := id :: tally.marked }
  | _, _ => tally

/-- A static version was read, or the instance of one that was read is marked. -/
def Settled (tally : Marking) : Prop :=
  ∃ version ∈ tally.read, version.isStatic = true ∨ version.id ∈ tally.marked

/-- What a request for a version may do by its tally: read the version, mark its instance, and then
write its dataset. -/
def Allows (details : VersionDetails) (tally : Marking) : Action → Prop
  | .store (.getVersion datasetId edition number _) =>
    (⟨datasetId, edition, number⟩ : VersionKey) = details.slot
  | .store (.publishInstance id) =>
    (∃ version ∈ tally.read, version.isStatic = false) ∧ ∃ version ∈ tally.read, version.id = id
  | .store (.upsertDataset _ _) => tally.Settled
  | .store (.addVersion _) => False
  | _ => True

/-- The conduct of a request for a version. -/
def conduct (details : VersionDetails) : Conduct Action.Answer Marking where
  fine := Allows details
  after := after

/-- What the write of a version leaves behind: more may have been read, and the version has the name
of one that was. -/
structure Follows (tally : Marking) (persisted : Version) (later : Marking) : Prop where
  read : tally.read ⊆ later.read
  named : ∃ version ∈ later.read, version.id = persisted.id

end Marking

variable {details : VersionDetails} {tally : Marking}

namespace TransitionContext

variable {context : TransitionContext} {persisted : Version}

/-! ### The write of the version -/

/-- An attempt to write a candidate is not in the tally, and keeps the name of the candidate. -/
theorem marks_write (path : WritePath) (current candidate : Version) :
    Abides (Marking.conduct details)
      (fun result later => (∀ version, result = .ok version →
          later = tally ∧ version.id = candidate.id) ∧
        ∀ error, result = .error error → later = tally)
      (context.write path current candidate) tally := by
  refine ⟨trivial, fun answer => ?_⟩
  match answer with
  | .error error => exact ⟨fun _ => nofun, fun _ _ => rfl⟩
  | .ok tag =>
    refine ⟨fun version same => ?_, fun _ => nofun⟩
    cases same
    exact ⟨rfl, rfl⟩

/-- The candidate that is made anew has the name of the version that was read for it. -/
theorem marks_refresh (same : context.details = details) :
    context.refresh.Warrants (Marking.conduct details)
      (fun pair later => later = { tally with read := pair.1 :: tally.read } ∧
        pair.2.id = pair.1.id) tally := by
  have reads : (Steps.store (.getVersion context.details.datasetId context.details.edition
      context.details.number context.ifMatch)).Warrants (Marking.conduct details)
      (fun (current : Version) later => later = { tally with read := current :: tally.read })
      tally :=
    Steps.warrants_store (same ▸ rfl) fun _ => rfl
  refine Steps.warrants_andThen reads ?_
  rintro current _ rfl
  exact Steps.warrants_require fun _ _ => Steps.warrants_ok ⟨rfl, rfl⟩

/-- Whichever attempt succeeds, the version that is written has the name of one that was read. -/
theorem marks_persist (same : context.details = details) (path : WritePath)
    (read : context.current ∈ tally.read) (own : context.candidate.id = context.current.id) :
    (context.persist path).Warrants (Marking.conduct details) tally.Follows tally := by
  refine warrants_persist_of ((marks_write path _ _).mono ?_) trivial rfl (marks_refresh same) ?_
  · rintro result later ⟨written, failed⟩
    refine ⟨fun version done => ?_, failed⟩
    obtain ⟨rfl, named⟩ := written version done
    exact ⟨List.Subset.refl _, context.current, read, (named.trans own).symm⟩
  · rintro ⟨current, candidate⟩ _ ⟨rfl, again⟩
    refine (marks_write path current candidate).mono fun result later ends version done => ?_
    obtain ⟨rfl, named⟩ := ends.1 version done
    exact ⟨List.subset_cons_self _ _, current, List.mem_cons_self, (named.trans again).symm⟩

/-! ### What comes after the write -/

theorem marks_promoteEdition :
    (context.promoteEdition persisted).Warrants (Marking.conduct details)
      (fun _ later => later = tally) tally := by
  have reads : (Steps.store (.getEdition context.details.datasetId context.details.edition
      ETag.any)).Warrants (Marking.conduct details) (fun (_ : Edition) later => later = tally)
      tally :=
    Steps.warrants_store trivial fun _ => rfl
  refine Steps.warrants_andThen reads ?_
  rintro edition _ rfl
  refine Steps.warrants_act_bind trivial fun now => ?_
  rcases edition.promote now persisted.versionLink with ⟨document, error | ⟨⟩⟩
  · exact Steps.warrants_error error
  · exact Steps.warrants_store trivial fun _ => rfl

/-- The instance of an imported version is marked, and a static version has none. -/
theorem marks_publishInstance {isStatic : Bool}
    (typed : ∃ version ∈ tally.read, version.isStatic = isStatic)
    (named : ∃ version ∈ tally.read, version.id = persisted.id) :
    (publishInstance isStatic persisted).Warrants (Marking.conduct details)
      (fun _ later => later.Settled) tally := by
  cases isStatic with
  | true =>
    obtain ⟨version, read, static⟩ := typed
    exact Steps.warrants_ok ⟨version, read, .inl static⟩
  | false =>
    refine Steps.warrants_store ⟨typed, named⟩ fun _ => ?_
    obtain ⟨version, read, same⟩ := named
    exact ⟨version, read, .inr (same ▸ List.mem_cons_self)⟩

theorem marks_promoteDataset (settled : tally.Settled) :
    (context.promoteDataset persisted).Warrants (Marking.conduct details) (fun _ _ => True)
      tally :=
  Steps.warrants_act_bind trivial fun _ => Steps.warrants_store settled fun _ => trivial

end TransitionContext

namespace Handler

variable {context : TransitionContext} {type : DatasetType} {persisted : Version}

/-- What handlers may do that do not publish has nothing to do with instances. -/
theorem marks_of_take {handler : Handler} (differs : handler ≠ published)
    {steps : Steps (Result Version)} (takes : steps.Take (handler.MayTake context persisted)) :
    steps.Warrants (Marking.conduct details) (fun _ _ => True) tally := by
  refine (Program.Upholds.abides takes fun tally action may => ?_).mono fun _ _ _ _ _ => trivial
  cases may <;> first | exact trivial | exact absurd rfl differs

/-- Whatever a handler does after it has written the version, it marks the instance of a version
that was read, and it does so before it promotes the dataset. -/
theorem marks_afterwards (handler : Handler)
    (typed : ∃ version ∈ tally.read, version.isStatic = type.isStatic)
    (named : ∃ version ∈ tally.read, version.id = persisted.id) :
    (handler.afterwards context type persisted).Warrants (Marking.conduct details)
      (fun _ _ => True) tally := by
  by_cases publishes : handler = published
  · subst publishes
    refine Steps.warrants_andThen TransitionContext.marks_promoteEdition ?_
    rintro _ _ rfl
    refine Steps.warrants_andThen (TransitionContext.marks_publishInstance typed named)
      fun _ later settled => ?_
    have looks : (Steps.store (.getDatasetType context.details.datasetId true)).Warrants
        (Marking.conduct details) (fun (_ : DatasetType) final => final = later) later :=
      Steps.warrants_store trivial fun _ => rfl
    refine Steps.warrants_andThen looks ?_
    rintro datasetType _ rfl
    refine Steps.warrants_andThen (TransitionContext.marks_promoteDataset settled)
      fun _ final _ => ?_
    -- Downloads are asked for by this handler as by any other.
    exact marks_of_take Handler.noConfusion (take_generateDownloads_if draft _ datasetType)
  · exact marks_of_take publishes (take_afterwards context handler type persisted)

end Handler

/-! ### Requests -/

namespace Machine

variable {machine : Machine} {identifiers : VersionIdentifiers} {update : Version}
  {options : AmendOptions}

/-- The steps under the lock go by what they have read and marked, with whichever handlers. -/
theorem marks_locked :
    (machine.locked details update options).Warrants (Marking.conduct details) (fun _ _ => True)
      {} := by
  have unread {call : StoreCall} (fine : Marking.Allows details {} (.store call))
      (uncounted : ∀ value, Marking.after {} (.store call) (.ok value : call.Answer) = {}) :
      (Steps.store call).Warrants (Marking.conduct details) (fun _ later => later = {}) {} :=
    Steps.warrants_store fine uncounted
  refine Steps.warrants_andThen (unread trivial fun _ => rfl) ?_
  rintro dataset _ rfl
  refine Steps.warrants_andThen (unread trivial fun _ => rfl) ?_
  rintro _ _ rfl
  have finds : (Steps.store
      (.getVersion details.datasetId details.edition details.number options.ifMatch)).Warrants
      (Marking.conduct details) (fun (current : Version) later => later = { read := [current] })
      {} :=
    Steps.warrants_store rfl fun _ => rfl
  refine Steps.warrants_andThen finds ?_
  rintro current _ rfl
  refine Steps.warrants_require fun checked passed => ?_
  obtain ⟨valid, target, type, state, -⟩ := TransitionContext.checkMove_eq_ok_iff.mp passed
  simp only [state]
  rw [Handler.steps_eq _ _ valid]
  let context := machine.context details update options dataset current
  refine Steps.warrants_require fun type (resolved : context.type = .ok type) => ?_
  have typed : current.isStatic = type.isStatic :=
    (TransitionContext.isStatic_of_type resolved).symm
  refine Steps.warrants_andThen (context.marks_persist rfl _ (List.mem_singleton_self _) rfl)
    fun persisted later follows => ?_
  exact Handler.marks_afterwards _
    ⟨current, follows.read (List.mem_singleton_self _), typed⟩ follows.named

/-- A request goes by what it has read and marked, from its first call to its last. -/
theorem marks_amend (named : identifiers.resolve = .ok details) :
    Abides (Request.conduct (Marking.conduct details)) (fun _ _ => True)
      (machine.amend identifiers update options) {} := by
  unfold amend
  simp only [named]
  by_cases unknown : update.type ≠ "" ∧ DatasetType.resolve? update.type = none
  · rw [if_pos unknown]
    trivial
  · rw [if_neg unknown]
    refine (Request.abides_amendVersion trivial (fun answer => ?_) marks_locked).mono
      fun _ _ _ => trivial
    cases answer <;> rfl

end Machine

end ReleaseCatalog
