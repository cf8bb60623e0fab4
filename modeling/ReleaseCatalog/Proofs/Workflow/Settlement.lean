/-
A move comes in two parts. First it is settled: the version is written, and then its parents. When
all of that has been done the move is concluded, by asking a generator for downloads if they are
called for. Handlers are written as one sequence of steps each; here they are taken apart, so that
the first part can be seen to attain the cascade of the version, and to find out what the second
part has to do. In the second part nothing is written any more.
-/

import ReleaseCatalog.Proofs.Site.Attaining
import ReleaseCatalog.Proofs.Workflow.Cascade
import ReleaseCatalog.Proofs.Workflow.Growth

namespace ReleaseCatalog

open Program (Ensures)

/-! ### When downloads are called for -/

/-- Downloads are called for by an update of a stored version: its dataset is not static, the caller
has none, and it is put into a collection, or it is published while no CSV file of it is public. -/
structure Version.CallsForDownloads (stored update : Version) (hasDownloads : Bool) : Prop where
  imported : stored.isStatic = false
  lacking : hasDownloads = false
  target : (combine stored update).state = some .associated ∨
    (combine stored update).state = some .published ∧
      ∀ csv, (combine stored update).download? .csv = some csv → csv.publicUrl = ""

/-- The type whose generator makes the downloads of a version: for a published one the type that its
dataset has, and otherwise its own. -/
def VersionDetails.downloadType (details : VersionDetails) (catalog : Catalog)
    (candidate : Version) : Result DatasetType :=
  if candidate.state = some .published then catalog.getDatasetType details.datasetId true
  else candidate.resolvedType

theorem TransitionContext.hasPublicCsv_eq_false_iff {version : Version} :
    hasPublicCsv version = false ↔
      ∀ csv, version.download? .csv = some csv → csv.publicUrl = "" := by
  unfold hasPublicCsv Version.download? Downloads.hasPublicCsv
  cases version.downloads with
  | none => simp
  | some downloads => cases found : downloads.csv <;> simp [Downloads.get?, found]

/-- With the candidate its parents are written. -/
def Version.InvolvesParents (candidate : Version) : Prop :=
  candidate.state = some .published ∨
    candidate.state = some .associated ∧ candidate.isStatic = false

theorem Version.CallsForDownloads.involvesParents {stored update : Version} {hasDownloads : Bool}
    (calls : stored.CallsForDownloads update hasDownloads) :
    (combine stored update).InvolvesParents := by
  rcases calls.target with associated | ⟨published, -⟩
  · exact .inr ⟨associated, calls.imported⟩
  · exact .inl published

namespace VersionDetails

variable {details : VersionDetails} {catalog : Catalog} {dataset : Dataset} {candidate : Version}

theorem parentWrites_ne_nil (involves : candidate.InvolvesParents) (times : CascadeTimes) :
    details.parentWrites catalog dataset candidate times ≠ [] := by
  unfold parentWrites
  rcases involves with published | ⟨associated, imported⟩
  · rw [published]
    exact List.append_ne_nil_of_right_ne_nil _ (List.cons_ne_nil _ _)
  · simp [associated, imported, associationWrites]

theorem parentWrites_eq_nil (alone : ¬candidate.InvolvesParents) (times : CascadeTimes) :
    details.parentWrites catalog dataset candidate times = [] := by
  unfold parentWrites
  split
  · next published => exact absurd (.inl published) alone
  · next associated =>
    exact if_pos (eq_true_of_ne_false fun imported => alone (.inr ⟨associated, imported⟩))
  · rfl

end VersionDetails

/-- The type of a dataset is found in the datasets. -/
theorem Catalog.getDatasetType_congr {first second : Catalog}
    (same : first.datasets = second.datasets) (id : String) (authorised : Bool) :
    first.getDatasetType id authorised = second.getDatasetType id authorised := by
  unfold getDatasetType getDataset
  rw [same]

/-! ### The two parts of a move -/

/-- A move whose writes have all been made. -/
structure Settlement where
  context : TransitionContext
  persisted : Version
  /-- The type whose generator is to be asked for downloads, if one is. -/
  asks : Option DatasetType

namespace Settlement

/-- A settlement after which downloads are asked for or not. -/
def askingIf (context : TransitionContext) (persisted : Version) (asked : Bool)
    (type : DatasetType) : Settlement :=
  ⟨context, persisted, if asked then some type else none⟩

/-- The second part of a move. -/
def conclude (settlement : Settlement) : Steps (Result Version) :=
  match settlement.asks with
  | none => .done (.ok settlement.persisted)
  | some type =>
    (settlement.context.generateDownloads type).andThen fun () => .done (.ok settlement.persisted)

theorem conclude_askingIf (context : TransitionContext) (persisted : Version) (asked : Bool)
    (type : DatasetType) : (askingIf context persisted asked type).conclude =
      if asked then
        (context.generateDownloads type).andThen fun () => .done (.ok persisted)
      else .done (.ok persisted) := by
  cases asked <;> rfl

end Settlement

namespace Handler

/-- What a handler does after it has written the version, but for the downloads. -/
def settle (context : TransitionContext) (type : DatasetType) (persisted : Version) :
    Handler → Steps (Result Settlement)
  | draft | editionConfirmed | terminal => .done (.ok ⟨context, persisted, none⟩)
  | associated =>
    if type.isStatic then .done (.ok ⟨context, persisted, none⟩)
    else
      (Steps.store (.associate context.details.datasetId .associated persisted)).andThen fun () =>
      .done (.ok (.askingIf context persisted (!context.hasDownloads) type))
  | published =>
    (context.promoteEdition persisted).andThen fun () =>
    (TransitionContext.publishInstance type.isStatic persisted).andThen fun () =>
    (Steps.store (.getDatasetType context.details.datasetId true)).andThen fun datasetType =>
    (context.promoteDataset persisted).andThen fun () =>
    .done (.ok (.askingIf context persisted
      (!TransitionContext.hasPublicCsv persisted && !context.hasDownloads && !type.isStatic)
      datasetType))

theorem settle_andThen_conclude (context : TransitionContext) (handler : Handler)
    (type : DatasetType) (persisted : Version) :
    (handler.settle context type persisted).andThen Settlement.conclude =
      handler.afterwards context type persisted := by
  have concluded (asked : Bool) (other : DatasetType) :
      Steps.andThen (.done (.ok (Settlement.askingIf context persisted asked other)))
        Settlement.conclude =
      if asked then
        (context.generateDownloads other).andThen fun () => .done (.ok persisted)
      else .done (.ok persisted) := Settlement.conclude_askingIf context persisted asked other
  cases handler with
  | draft | editionConfirmed | terminal => rfl
  | associated =>
    unfold settle afterwards
    cases type.isStatic with
    | true => rfl
    | false =>
      simp only [Bool.false_eq_true, if_false, Steps.andThen_assoc, concluded]
      cases context.hasDownloads <;> rfl
  | published =>
    simp only [settle, afterwards, Steps.andThen_assoc]
    refine congrArg _ (funext fun _ => congrArg _ (funext fun _ => congrArg _
      (funext fun datasetType => congrArg _ (funext fun _ => ?_))))
    exact concluded _ datasetType

end Handler

/-- The first part of the steps under the lock. -/
def Machine.settled (machine : Machine) (details : VersionDetails) (update : Version)
    (options : AmendOptions) : Steps (Result Settlement) :=
  (Steps.store (.getDataset details.datasetId)).andThen fun dataset =>
  (Steps.store (.checkEdition details.datasetId details.edition none)).andThen fun () =>
  (Steps.store
      (.getVersion details.datasetId details.edition details.number options.ifMatch)).andThen
    fun current =>
      let context := machine.context details update options dataset current
      Steps.require (TransitionContext.checkMove machine.transitions current context.candidate)
        fun () =>
      match context.candidate.state with
      | none => .done (.error .missingState)
      | some target =>
        Steps.require context.type fun type =>
        (context.persist (.forStatic type.isStatic)).andThen
          ((machine.handlers.handler target).settle context type)

/-- The steps under the lock are their two parts in sequence. -/
theorem Machine.locked_eq (machine : Machine) (details : VersionDetails) (update : Version)
    (options : AmendOptions) :
    machine.locked details update options =
      (machine.settled details update options).andThen Settlement.conclude := by
  unfold locked settled
  simp only [Steps.andThen_assoc, Steps.require_andThen]
  refine congrArg _ (funext fun dataset => congrArg _ (funext fun _ => congrArg _
    (funext fun current => Steps.require_congr fun _ checked => ?_)))
  obtain ⟨valid, target, type, state, -⟩ := TransitionContext.checkMove_eq_ok_iff.mp checked
  have moved : (machine.context details update options dataset current).candidate.state =
      some target := state
  simp only [state, moved, Steps.require_andThen, Steps.andThen_assoc,
    Handler.settle_andThen_conclude]
  exact Handler.steps_eq _ _ valid

/-! ### The first part asks no generator -/

/-- The action does not ask a generator. -/
def Action.IsQuiet : Action → Prop
  | .generate _ _ => False
  | _ => True

namespace TransitionContext

variable (context : TransitionContext)

theorem take_write (path : WritePath) (current candidate : Version) :
    (context.write path current candidate).Take Action.IsQuiet :=
  Steps.take_andThen (Steps.take_store trivial) fun _ => trivial

theorem take_persist (path : WritePath) : (context.persist path).Take Action.IsQuiet := by
  refine (Program.upholds_bind _ _).mpr
    ((context.take_write path _ _).mono fun result _ => ?_)
  cases result with
  | ok persisted => exact trivial
  | error error =>
    by_cases retried : error.isRetryable = true
    · simp only [if_pos retried]
      have refreshed : context.refresh.Take Action.IsQuiet :=
        Steps.take_andThen (Steps.take_store trivial) fun _ => Steps.take_require fun _ _ => trivial
      exact ⟨trivial, fun _ _ => Steps.take_andThen refreshed fun _ => context.take_write path _ _⟩
    · simp only [if_neg retried]
      exact trivial

end TransitionContext

theorem Handler.take_settle (context : TransitionContext) (handler : Handler) (type : DatasetType)
    (persisted : Version) :
    (handler.settle context type persisted).Take Action.IsQuiet := by
  cases handler with
  | draft | editionConfirmed | terminal => exact trivial
  | associated =>
    unfold settle
    cases type.isStatic with
    | true => exact trivial
    | false => exact Steps.take_andThen (Steps.take_store trivial) fun _ => trivial
  | published =>
    have edition : (context.promoteEdition persisted).Take Action.IsQuiet := by
      refine Steps.take_andThen (Steps.take_store trivial) fun edition =>
        Steps.take_now trivial fun now => ?_
      rcases edition.promote now persisted.versionLink with ⟨document, error | ⟨⟩⟩
      · exact trivial
      · exact Steps.take_store trivial
    have record : (TransitionContext.publishInstance type.isStatic persisted).Take
        Action.IsQuiet := by
      cases type.isStatic with
      | true => exact trivial
      | false => exact Steps.take_store trivial
    have dataset : (context.promoteDataset persisted).Take Action.IsQuiet :=
      Steps.take_now trivial fun _ => Steps.take_store trivial
    exact Steps.take_andThen edition fun _ => Steps.take_andThen record fun _ =>
      Steps.take_andThen (Steps.take_store trivial) fun _ => Steps.take_andThen dataset fun _ =>
      trivial

theorem Machine.take_settled (machine : Machine) (details : VersionDetails) (update : Version)
    (options : AmendOptions) : (machine.settled details update options).Take Action.IsQuiet := by
  refine Steps.take_andThen (Steps.take_store trivial) fun _ => Steps.take_andThen
    (Steps.take_store trivial) fun _ => Steps.take_andThen (Steps.take_store trivial)
    fun _ => Steps.take_require fun _ checked => ?_
  obtain ⟨-, target, -, state, -⟩ := TransitionContext.checkMove_eq_ok_iff.mp checked
  simp only [state]
  exact Steps.take_require fun type _ => Steps.take_andThen (TransitionContext.take_persist _ _)
    fun persisted => Handler.take_settle _ _ type persisted

/-! ### The first part attains the cascade -/

namespace TransitionContext

variable {context : TransitionContext} {site : Site} {type : DatasetType} {persisted : Version}

/-- A settlement of a move knows whether downloads are called for, and by which type they are
made. -/
structure Settles (context : TransitionContext) (catalog : Catalog) (settlement : Settlement) :
    Prop where
  own : settlement.context = context
  unasked : settlement.asks = none →
    ¬context.current.CallsForDownloads context.update context.hasDownloads
  asked (type : DatasetType) : settlement.asks = some type →
    context.current.CallsForDownloads context.update context.hasDownloads ∧
      context.details.downloadType catalog context.candidate = .ok type

theorem settles_none {catalog : Catalog}
    (uncalled : ¬context.current.CallsForDownloads context.update context.hasDownloads) :
    context.Settles catalog ⟨context, persisted, none⟩ :=
  ⟨rfl, fun _ => uncalled, nofun⟩

theorem settles_askingIf {catalog : Catalog} {asked : Bool}
    (called : asked = true ↔
      context.current.CallsForDownloads context.update context.hasDownloads)
    (typed : context.details.downloadType catalog context.candidate = .ok type) :
    context.Settles catalog (.askingIf context persisted asked type) := by
  cases asked with
  | false => exact settles_none (mt called.mpr Bool.false_ne_true)
  | true =>
    refine ⟨rfl, nofun, fun other same => ⟨called.mp rfl, ?_⟩⟩
    rw [typed, Option.some_inj.mp same]

/-- The handler of published versions asks for downloads when they are called for. -/
theorem asked_iff_of_published
    (merged : context.candidate = Version.combine context.current context.update)
    (static : type.isStatic = context.candidate.isStatic)
    (state : context.candidate.state = some .published) (tag : String) :
    (!hasPublicCsv { context.candidate with eTag := tag } && !context.hasDownloads &&
        !type.isStatic) = true ↔
      context.current.CallsForDownloads context.update context.hasDownloads := by
  have kept : context.candidate.isStatic = context.current.isStatic := by
    rw [merged]
    rfl
  have csv : hasPublicCsv { context.candidate with eTag := tag } = false ↔ _ :=
    hasPublicCsv_eq_false_iff
  rw [merged] at state
  rw [static, kept]
  simp only [Bool.and_eq_true, Bool.not_eq_true', csv]
  constructor
  · rintro ⟨⟨hidden, lacking⟩, imported⟩
    exact ⟨imported, lacking, .inr ⟨state, merged ▸ hidden⟩⟩
  · rintro ⟨imported, lacking, other | ⟨-, hidden⟩⟩
    · cases state.symm.trans other
    · exact ⟨⟨merged.symm ▸ hidden, lacking⟩, imported⟩

/-- The type that is read for a published version is the one that its downloads have. -/
theorem downloadType_of_published {first second : Catalog}
    (state : context.candidate.state = some .published) (same : second.datasets = first.datasets)
    (read : second.getDatasetType context.details.datasetId true = .ok type) :
    context.details.downloadType first context.candidate = .ok type := by
  rw [VersionDetails.downloadType, if_pos state, ← Catalog.getDatasetType_congr same]
  exact read

theorem attains_promoteDataset (persisted : Version) :
    Ensures Steps.disturbed
      (site.Attains (context.details.datasetWrites context.dataset persisted) fun _ _ => True)
      (context.promoteDataset persisted) site :=
  Steps.attains_now fun now _ => Steps.attains_store_of (.upsertDataset context.details.datasetId
    (context.dataset.promote now persisted)) fun _ => ⟨now, rfl, fun _ _ => trivial⟩

theorem attains_persist (tells : context.Tells site.catalog) (path : WritePath) :
    Ensures Steps.disturbed (site.Attains (context.candidateWrites site.catalog path)
      fun _ => context.IsCandidate) (context.persist path) site :=
  (ensures_persist tells path).mono fun _ _ ends => ends.1.attains ends.2

end TransitionContext

namespace Handler

open TransitionContext

variable {context : TransitionContext} {site : Site} {type : DatasetType} {persisted : Version}

theorem attains_settle_published (merged : context.candidate =
      Version.combine context.current context.update)
    (static : type.isStatic = context.candidate.isStatic)
    (state : context.candidate.state = some .published)
    (candidate : context.IsCandidate persisted) :
    Ensures Steps.disturbed
      (site.Attains
        (context.details.parentWrites site.catalog context.dataset context.candidate)
        fun _ => context.Settles site.catalog)
      (published.settle context type persisted) site := by
  obtain ⟨tag, rfl⟩ := candidate
  let instanceWrites :=
    if context.candidate.isStatic then []
    else site.catalog.publishWrites context.candidate.id
  let datasetWrites := context.details.datasetWrites context.dataset context.candidate
  have called := asked_iff_of_published merged static state tag
  refine (Steps.attains_andThen
    (fun _ (now : Timestamp) => instanceWrites ++ datasetWrites now)
    (fun _ _ => context.Settles site.catalog)
    (fun _ _ => List.append_ne_nil_of_right_ne_nil _ (List.cons_ne_nil _ _))
    (follows_promoteEdition _) ?_).mono ?_
  · rintro now ⟨⟩ calendar -
    refine (Steps.attains_andThen (fun _ => datasetWrites)
      (fun _ _ => context.Settles site.catalog) (fun _ _ => List.cons_ne_nil _ _)
      (follows_publishInstance _ _) ?_).mono ?_
    · rintro ⟨⟩ ⟨⟩ calendar -
      refine Steps.attains_read_andThen (fun _ _ => rfl) fun datasetType calendar answered => ?_
      obtain ⟨later, read⟩ := answered
      refine Steps.attains_andThen_done (fun _ _ _ => settles_askingIf called
        (downloadType_of_published state ?_ read)) (attains_promoteDataset _)
      cases type.isStatic with
      | true => exact (Catalog.others_writeAll_editionWrites _ _ _ _ _).1
      | false =>
        exact (Catalog.parents_writeAll_publishWrites _ _ _).1.trans
          (Catalog.others_writeAll_editionWrites _ _ _ _ _).1
    · refine fun outcome last attains => attains.mono fun readings =>
        ⟨readings.2, congrArg (· ++ _) ?_, fun _ => id⟩
      show (if type.isStatic then [] else (site.catalog.writeAll _).publishWrites _) =
        instanceWrites
      rw [static, Catalog.publishWrites, (Catalog.others_writeAll_editionWrites _ _ _ _ _).2]
      rfl
  · refine fun outcome last attains => attains.mono fun readings =>
      ⟨⟨readings.1, readings.1, readings.2⟩, ?_, fun _ => id⟩
    unfold VersionDetails.parentWrites
    rw [state]
    exact (List.append_assoc _ _ _).symm

theorem attains_settle_associated (merged : context.candidate =
      Version.combine context.current context.update)
    (resolved : context.type = .ok type) (imported : context.candidate.isStatic = false)
    (state : context.candidate.state = some .associated)
    (candidate : context.IsCandidate persisted)
    (found : site.catalog.datasets.get? context.details.datasetId = some context.dataset) :
    Ensures Steps.disturbed
      (site.Attains
        (context.details.parentWrites site.catalog context.dataset context.candidate)
        fun _ => context.Settles site.catalog)
      (associated.settle context type persisted) site := by
  have static : type.isStatic = false := (isStatic_of_type resolved).trans imported
  have called : (!context.hasDownloads) = true ↔
      context.current.CallsForDownloads context.update context.hasDownloads := by
    rw [Bool.not_eq_true']
    refine ⟨fun lacking => ⟨?_, lacking, .inl (merged ▸ state)⟩, fun calls => calls.lacking⟩
    rw [merged] at imported
    exact imported
  have typed : context.details.downloadType site.catalog context.candidate = .ok type := by
    rw [VersionDetails.downloadType, if_neg (by simp [state])]
    exact resolved
  have written (now : Timestamp) : (StoreCall.associate context.details.datasetId .associated
      persisted).writes now site.catalog =
        context.details.associationWrites context.dataset context.candidate now := by
    obtain ⟨tag, rfl⟩ := candidate
    simp only [StoreCall.writes, found]
    rfl
  have records : Ensures Steps.disturbed
      (site.Attains (context.details.associationWrites context.dataset context.candidate)
        fun _ (_ : Unit) => True)
      (Steps.store (.associate context.details.datasetId .associated persisted)) site :=
    Steps.attains_store_of _ fun now => ⟨now, written now, fun _ _ => trivial⟩
  unfold settle
  rw [if_neg (Bool.eq_false_iff.mp static)]
  refine (Steps.attains_andThen_done (fun _ _ _ => settles_askingIf called typed) records).mono ?_
  intro outcome last attains
  refine attains.mono fun now => ⟨⟨now, now, now⟩, ?_, fun _ => id⟩
  unfold VersionDetails.parentWrites
  rw [state, imported]
  rfl

/-- Without parents to write a handler has settled the move when it has written the version. -/
theorem settle_of_alone {target : State} (state : context.candidate.state = some target)
    (static : type.isStatic = context.candidate.isStatic)
    (alone : ¬context.candidate.InvolvesParents) :
    (Handler.default target).settle context type =
      fun persisted => .done (.ok ⟨context, persisted, none⟩) := by
  funext persisted
  cases target with
  | published => exact absurd (.inl state) alone
  | associated =>
    refine if_pos (static.trans (eq_true_of_ne_false fun imported => alone ?_))
    exact .inr ⟨state, imported⟩
  | created | submitted | completed | editionConfirmed | detached | failed => rfl

end Handler

namespace TransitionContext

variable {context : TransitionContext} {site : Site}

/-- What downloads are asked for by is the same in catalogs that have the same datasets. -/
theorem Settles.of_datasets {first second : Catalog} {settlement : Settlement}
    (settles : context.Settles first settlement) (same : first.datasets = second.datasets) :
    context.Settles second settlement := by
  refine ⟨settles.own, settles.unasked, fun type asks => ?_⟩
  obtain ⟨calls, typed⟩ := settles.asked type asks
  rw [VersionDetails.downloadType, Catalog.getDatasetType_congr same] at typed
  exact ⟨calls, typed⟩

/-- Settling the parents of a written version attains their writes. -/
theorem attains_settle_parents {target : State} {type : DatasetType} {persisted : Version}
    (merged : context.candidate = Version.combine context.current context.update)
    (resolved : context.type = .ok type) (state : context.candidate.state = some target)
    (involves : context.candidate.InvolvesParents) (candidate : context.IsCandidate persisted)
    (found : site.catalog.datasets.get? context.details.datasetId = some context.dataset) :
    Ensures Steps.disturbed
      (site.Attains (context.details.parentWrites site.catalog context.dataset context.candidate)
        fun _ => context.Settles site.catalog)
      ((Handler.default target).settle context type persisted) site := by
  rcases involves with published | ⟨associated, imported⟩
  · obtain rfl : target = .published := Option.some_inj.mp (state.symm.trans published)
    exact Handler.attains_settle_published merged (isStatic_of_type resolved) state candidate
  · obtain rfl : target = .associated := Option.some_inj.mp (state.symm.trans associated)
    exact Handler.attains_settle_associated merged resolved imported state candidate found

/-- The first part of a move by a default handler attains the writes of the move. -/
theorem attains_settle {target : State} (tells : context.Tells site.catalog)
    (state : context.candidate.state = some target) :
    Ensures Steps.disturbed
      (site.Attains (context.moveWrites site.catalog) fun _ => context.Settles site.catalog)
      (Steps.require context.type fun type =>
        (context.persist (.forStatic type.isStatic)).andThen
          ((Handler.default target).settle context type)) site := by
  refine Steps.attains_require fun type resolved => ?_
  have static := isStatic_of_type resolved
  let path := WritePath.forStatic context.candidate.isStatic
  rw [static]
  by_cases involves : context.candidate.InvolvesParents
  · refine (Steps.attains_andThen
      (fun _ => context.details.parentWrites site.catalog context.dataset context.candidate)
      (fun _ _ => context.Settles site.catalog)
      (fun _ => VersionDetails.parentWrites_ne_nil involves) (follows_persist tells path)
      ?_).mono ?_
    · intro now persisted calendar candidate
      let middle := (site.make (context.candidateWrites site.catalog path now)).withCalendar
        calendar
      have datasets : middle.catalog.datasets = site.catalog.datasets :=
        (site.catalog.parents_writeAll_versionWrites _ _ _).1
      have found := (congrArg (Collection.get? · context.details.datasetId) datasets).trans
        tells.dataset
      rw [← parentWrites_writeAll_candidateWrites context site.catalog path now]
      refine Ensures.mono
        (attains_settle_parents tells.candidate resolved state involves candidate found) ?_
      exact fun _ _ attains => attains.mono fun times =>
        ⟨times, rfl, fun _ settles => settles.of_datasets datasets⟩
    · exact fun outcome last attains => attains.mono fun readings =>
        ⟨{ readings.2 with version := readings.1 }, rfl, fun _ => id⟩
  · have settles (persisted : Version) :
        context.Settles site.catalog ⟨context, persisted, none⟩ :=
      settles_none fun calls => involves (tells.candidate ▸ calls.involvesParents)
    rw [Handler.settle_of_alone state static involves]
    refine (Steps.attains_andThen_done (fun _ persisted _ => settles persisted)
      (attains_persist tells path)).mono fun outcome last attains => attains.mono fun now => ?_
    refine ⟨⟨now, now, now⟩, ?_, fun _ => id⟩
    rw [moveWrites, VersionDetails.parentWrites_eq_nil involves, List.append_nil]

end TransitionContext

namespace Machine

variable {machine : Machine} {site : Site}

/-- With the default handlers the first part of the steps under the lock attains the cascade of the
version, and finds out whether downloads are called for. -/
theorem attains_settled (standard : machine.handlers = {}) (details : VersionDetails)
    (update : Version) (options : AmendOptions) (filed : site.catalog.WellFiled) :
    Ensures Steps.disturbed
      (site.Attains (details.cascade update site.catalog) fun _ settlement => ∃ dataset stored,
        site.catalog.datasets.get? details.datasetId = some dataset ∧
          site.catalog.versions.get? details.slot = some stored ∧
          (machine.context details update options dataset stored).Settles site.catalog settlement)
      (machine.settled details update options) site := by
  refine Steps.attains_read_andThen (fun _ _ => rfl) fun dataset _ ⟨_, readDataset⟩ => ?_
  refine Steps.attains_read_andThen (fun _ _ => rfl) fun _ _ _ => ?_
  refine Steps.attains_read_andThen (fun _ _ => rfl) fun current _ ⟨_, readVersion⟩ => ?_
  have stored : site.catalog.datasets.get? details.datasetId = some dataset :=
    Catalog.getDataset_eq_ok_iff.mp readDataset
  have found : site.catalog.versions.get? details.slot = some current :=
    (Catalog.getVersion_eq_ok_iff.mp readVersion).1
  have cascade : details.cascade update site.catalog =
      (machine.context details update options dataset current).moveWrites site.catalog := by
    funext times
    simp only [VersionDetails.cascade, found, stored]
    rfl
  rw [cascade]
  refine Steps.attains_require fun _ checked => ?_
  obtain ⟨-, target, type, state, -⟩ := TransitionContext.checkMove_eq_ok_iff.mp checked
  simp only [state, standard]
  refine (TransitionContext.attains_settle ⟨found, filed _ _ found, stored, rfl⟩ state).mono ?_
  exact fun outcome last attains => attains.mono fun readings =>
    ⟨readings, rfl, fun _ settles => ⟨dataset, current, stored, found, settles⟩⟩

end Machine

end ReleaseCatalog
