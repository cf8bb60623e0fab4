/-
The gate before the write of a version. Ten conditions decide whether a request writes at all. They
are checked in a fixed order, and a request fails with the error of the first one that it does not
meet. Here they are told one by one, in terms of the stored documents and of the rules of the
table; and it is shown that on a site that serves, and where the lock is free, a request writes its
version exactly when all of them hold.

On the way from the program to the conditions stands a verdict: the value or the error to which the
reads and checks of a request come on a catalog, without any step of the program.
-/

import Mathlib
import ReleaseCatalog.Proofs.Concurrency.Stages
import ReleaseCatalog.Proofs.Identifiers.VersionNumber
import ReleaseCatalog.Proofs.Workflow.Metadata
import ReleaseCatalog.Proofs.Workflow.Publication
import ReleaseCatalog.Proofs.Workflow.Rules

namespace ReleaseCatalog

/-- A candidate that is complete but may not make its move is refused. -/
theorem TransitionContext.checkMove_eq_error {table : TransitionTable} {current candidate : Version}
    (valid : candidate.validate = .ok ()) (refused : checkMove table current candidate ≠ .ok ()) :
    checkMove table current candidate = .error .stateTransitionNotAllowed := by
  obtain ⟨stated, spelled, -⟩ := Version.validate_eq_ok_iff.mp valid
  obtain ⟨target, state⟩ := Option.ne_none_iff_exists'.mp stated
  obtain ⟨type, known⟩ := DatasetType.exists_resolve?_iff.mpr spelled
  have resolved : candidate.resolvedType = .ok type := DatasetType.resolve_eq_ok_iff.mpr known
  unfold checkMove at refused ⊢
  rw [valid, state, resolved] at refused ⊢
  exact TransitionTable.check_eq_error refused

/-! ### Verdicts -/

namespace Result

variable {α β : Type} {first : Result α} {next : α → Result β}

theorem bind_eq_ok_iff {last : β} :
    first.bind next = .ok last ↔ ∃ value, first = .ok value ∧ next value = .ok last := by
  cases first with
  | error error => simp [Except.bind]
  | ok value => simp [Except.bind]

theorem bind_eq_error_iff {last : CatalogError} :
    first.bind next = .error last ↔
      first = .error last ∨ ∃ value, first = .ok value ∧ next value = .error last := by
  cases first with
  | error error => simp [Except.bind]
  | ok value => simp [Except.bind]

end Result

namespace Machine

open Program

/-- What the reads and checks under the lock come to on a catalog: the stored version, or the error
of the first one that fails. -/
def verdict (machine : Machine) (details : VersionDetails) (update : Version)
    (options : AmendOptions) (catalog : Catalog) : Result Version :=
  (catalog.getDataset details.datasetId).bind fun _ =>
  (catalog.checkEdition details.datasetId details.edition none).bind fun () =>
  (catalog.getVersion details.slot options.ifMatch).bind fun stored =>
  (TransitionContext.checkMove machine.transitions stored (Version.combine stored update)).bind
    fun () => .ok stored

variable {machine : Machine} {details : VersionDetails} {update : Version}
  {options : AmendOptions} {catalog : Catalog} {site : Site}

/-- The verdict is a stored version exactly when the request finds all that it needs. -/
theorem verdict_eq_ok_iff {stored : Version} :
    machine.verdict details update options catalog = .ok stored ↔
      machine.Passes details update options catalog stored := by
  unfold verdict
  constructor
  · intro accepted
    obtain ⟨dataset, readDataset, accepted⟩ := Result.bind_eq_ok_iff.mp accepted
    obtain ⟨_, readEdition, accepted⟩ := Result.bind_eq_ok_iff.mp accepted
    obtain ⟨current, readVersion, accepted⟩ := Result.bind_eq_ok_iff.mp accepted
    obtain ⟨_, checked, same⟩ := Result.bind_eq_ok_iff.mp accepted
    cases same
    obtain ⟨found, selected⟩ := Catalog.getVersion_eq_ok_iff.mp readVersion
    exact ⟨⟨⟨dataset, Catalog.getDataset_eq_ok_iff.mp readDataset⟩,
      Catalog.checkEdition_eq_ok_iff.mp readEdition⟩, found, selected, checked⟩
  · intro passes
    obtain ⟨dataset, found⟩ := passes.parents.dataset
    refine Result.bind_eq_ok_iff.mpr ⟨dataset, Catalog.getDataset_eq_ok_iff.mpr found, ?_⟩
    refine Result.bind_eq_ok_iff.mpr
      ⟨(), Catalog.checkEdition_eq_ok_iff.mpr passes.parents.edition, ?_⟩
    refine Result.bind_eq_ok_iff.mpr ⟨stored,
      Catalog.getVersion_eq_ok_iff.mpr ⟨passes.version, passes.selected⟩, ?_⟩
    exact Result.bind_eq_ok_iff.mpr ⟨(), passes.checked, rfl⟩

/-- With the parents there, the verdict is about the version alone. -/
theorem verdict_of_hasParents (parents : catalog.HasParents details) :
    machine.verdict details update options catalog =
      (catalog.getVersion details.slot options.ifMatch).bind fun stored =>
        (TransitionContext.checkMove machine.transitions stored
          (Version.combine stored update)).bind fun () => .ok stored := by
  obtain ⟨dataset, found⟩ := parents.dataset
  unfold verdict
  rw [Catalog.getDataset_eq_ok_iff.mpr found, Catalog.checkEdition_eq_ok_iff.mpr parents.edition]
  rfl

/-- With the parents there and the version found, the verdict is about the move alone. -/
theorem verdict_of_found (parents : catalog.HasParents details) {stored : Version}
    (found : catalog.versions.get? details.slot = some stored)
    (selected : ETag.admits options.ifMatch stored.eTag = true) :
    machine.verdict details update options catalog =
      (TransitionContext.checkMove machine.transitions stored
        (Version.combine stored update)).bind fun () => .ok stored := by
  rw [verdict_of_hasParents parents, Catalog.getVersion_eq_ok_iff.mpr ⟨found, selected⟩]
  rfl

/-- When the verdict is an error, the steps under the lock fail with it. -/
theorem run_locked_of_verdict_eq_error {error : CatalogError}
    (rejected : machine.verdict details update options site.catalog = .error error) :
    ((machine.locked details update options).run Site.act site).1 = .error error := by
  unfold verdict at rejected
  refine (Steps.run_read_andThen_eq_error_iff fun _ _ => rfl).mpr ?_
  rcases Result.bind_eq_error_iff.mp rejected with failed | ⟨dataset, readDataset, rejected⟩
  · exact .inl failed
  refine .inr ⟨dataset, readDataset, ?_⟩
  refine (Steps.run_read_andThen_eq_error_iff fun _ _ => rfl).mpr ?_
  rcases Result.bind_eq_error_iff.mp rejected with failed | ⟨⟨⟩, readEdition, rejected⟩
  · exact .inl failed
  refine .inr ⟨(), readEdition, ?_⟩
  refine (Steps.run_read_andThen_eq_error_iff fun _ _ => rfl).mpr ?_
  rcases Result.bind_eq_error_iff.mp rejected with failed | ⟨stored, readVersion, rejected⟩
  · exact .inl failed
  refine .inr ⟨stored, readVersion, ?_⟩
  rcases Result.bind_eq_error_iff.mp rejected with failed | ⟨_, _, impossible⟩
  · show (Program.run Site.act (Steps.require (TransitionContext.checkMove machine.transitions stored
      (Version.combine stored update)) _) _).1 = _
    rw [failed]
    rfl
  · cases impossible

/-- When the verdict is an error the request fails and leaves the catalog alone, whether it is let
through to its lock or not. -/
theorem run_amendVersion_of_verdict_eq_error {error : CatalogError}
    (filed : site.catalog.WellFiled)
    (rejected : machine.verdict details update options site.catalog = .error error) :
    (∃ failure,
      ((machine.amendVersion details update options).run Site.perform site).1 = .error failure) ∧
      ((machine.amendVersion details update options).run Site.perform site).2.catalog =
        site.catalog := by
  by_cases through : (site.arena.request details.resourceKey).2.isThrough
      (site.arena.request details.resourceKey).1 = true
  · obtain ⟨arena, ran⟩ := run_amendVersion_of_through machine details update options through
    have there : machine.verdict details update options (site.later.withArena arena).catalog =
        .error error := rejected
    have undecided := undecided_locked machine details update options
      (site.later.withArena arena).catalog
    rw [ran]
    refine ⟨⟨error, run_locked_of_verdict_eq_error there⟩, ?_⟩
    rcases undecided.run filed with ⟨stored, _, passes, -⟩ | ⟨-, unchanged, -⟩
    · exact nomatch there.symm.trans (verdict_eq_ok_iff.mpr passes)
    · exact unchanged
  · rw [run_amendVersion_of_not_through machine details update options through]
    exact ⟨⟨_, rfl⟩, rfl⟩

end Machine

/-! ### The conditions -/

namespace Amendment

/-- The conditions under which a request writes its version, in the order in which they are
checked. -/
inductive Condition where
  /-- A dataset is named. -/
  | datasetId
  /-- An edition is named. -/
  | edition
  /-- The text for the version is a number. -/
  | number
  /-- The update gives no type, or a known one. -/
  | updateType
  /-- There is a dataset. -/
  | dataset
  /-- There is an edition. -/
  | editionDocument
  /-- There is a version. -/
  | version
  /-- The version is the one that the caller means. -/
  | selector
  /-- The candidate is complete. -/
  | complete
  /-- The rules allow the move. -/
  | rule
  deriving DecidableEq, Repr

/-- The stored version that an amendment names. -/
def stored? (amendment : Amendment) (catalog : Catalog) : Option Version :=
  match parseVersionNumber amendment.identifiers.version with
  | .error _ => none
  | .ok number => catalog.versions.get?
      ⟨amendment.identifiers.datasetId, amendment.identifiers.edition, number⟩

namespace Condition

/-- All conditions, in their order. -/
def all : List Condition :=
  [datasetId, edition, number, updateType, dataset, editionDocument, version, selector, complete,
    rule]

/-- The conditions that are checked before a condition. -/
def before (condition : Condition) : List Condition :=
  all.takeWhile (· ≠ condition)

/-- Whether an amendment meets a condition on a catalog. -/
def Holds (amendment : Amendment) (catalog : Catalog) : Condition → Prop
  | datasetId => amendment.identifiers.datasetId ≠ ""
  | edition => amendment.identifiers.edition ≠ ""
  | number => ∃ number, parseVersionNumber amendment.identifiers.version = .ok number
  | updateType => amendment.update.type = "" ∨
      ∃ type, DatasetType.resolve? amendment.update.type = some type
  | dataset => ∃ dataset, catalog.datasets.get? amendment.identifiers.datasetId = some dataset
  | editionDocument => ∃ edition, catalog.editions.get?
      (amendment.identifiers.datasetId, amendment.identifiers.edition) = some edition
  | version => ∃ stored, amendment.stored? catalog = some stored
  | selector => ∃ stored, amendment.stored? catalog = some stored ∧
      (amendment.options.ifMatch = ETag.any ∨ amendment.options.ifMatch = stored.eTag)
  | complete => ∃ stored, amendment.stored? catalog = some stored ∧
      (Version.combine stored amendment.update).validate = .ok ()
  | rule => ∃ stored, amendment.stored? catalog = some stored ∧
      ∃ rule ∈ amendment.machine.transitions.rules,
        (Version.combine stored amendment.update).state = some rule.target ∧
        DatasetType.resolve? stored.type = some rule.type ∧
        ∃ state ∈ rule.sources, stored.state = some state

/-- The error of a request that does not meet a condition. What a candidate lacks is said in the
error of its validation; all other conditions have an error of their own. -/
def Reports (amendment : Amendment) (catalog : Catalog) : Condition → CatalogError → Prop
  | datasetId, error => error = .missingIdentifier "dataset_id"
  | edition, error => error = .missingIdentifier "edition"
  | number, error => error = .invalidVersionNumber
  | updateType, error => error = .invalidDatasetType
  | dataset, error => error = .datasetNotFound
  | editionDocument, error => error = .editionNotFound
  | version, error => error = .versionNotFound
  | selector, error => error = .versionNotFound
  | complete, error => ∃ stored, amendment.stored? catalog = some stored ∧
      (Version.combine stored amendment.update).validate = .error error
  | rule, error => error = .stateTransitionNotAllowed

end Condition

end Amendment

theorem parseVersionNumber_eq_error {text : String}
    (unreadable : ¬∃ number, parseVersionNumber text = .ok number) :
    parseVersionNumber text = .error .invalidVersionNumber := by
  cases read : parseVersionNumber text with
  | ok number => exact absurd ⟨number, read⟩ unreadable
  | error error =>
    have same {condition : Prop} [Decidable condition] {number : UInt32}
        (failed : (if condition then .ok number else .error .invalidVersionNumber) =
          (.error error : Result UInt32)) : error = .invalidVersionNumber := by
      split at failed
      · cases failed
      · cases failed
        rfl
    rw [same read]

/-! ### Conditions and verdicts -/

namespace Amendment

/-- What all reads and checks of a request come to on a catalog. -/
def verdict (amendment : Amendment) (catalog : Catalog) : Result Version :=
  amendment.identifiers.resolve.bind fun details =>
    if amendment.update.type ≠ "" ∧ DatasetType.resolve? amendment.update.type = none then
      .error .invalidDatasetType
    else amendment.machine.verdict details amendment.update amendment.options catalog

variable {amendment : Amendment} {details : VersionDetails} {catalog : Catalog} {site : Site}

/-- An update has an unknown type when it gives one, and that names none. -/
theorem unknown_iff_not_holds :
    (amendment.update.type ≠ "" ∧ DatasetType.resolve? amendment.update.type = none) ↔
      ¬Condition.updateType.Holds amendment catalog := by
  unfold Condition.Holds
  cases DatasetType.resolve? amendment.update.type <;> simp

/-- A request that names a version and has no unknown type comes to what its reads and checks under
the lock come to. -/
theorem verdict_eq (named : amendment.identifiers.resolve = .ok details)
    (known : Condition.updateType.Holds amendment catalog) :
    amendment.verdict catalog =
      amendment.machine.verdict details amendment.update amendment.options catalog := by
  unfold verdict
  rw [named]
  exact if_neg fun unknown => unknown_iff_not_holds.mp unknown known

theorem stored?_eq (named : amendment.identifiers.resolve = .ok details) :
    amendment.stored? catalog = catalog.versions.get? details.slot := by
  obtain ⟨-, -, number, parsed, rfl⟩ := VersionIdentifiers.resolve_eq_ok_iff.mp named
  unfold stored?
  rw [parsed]
  rfl

/-- A request that names a version finds all that it needs exactly when the conditions on stored
documents and rules hold. -/
theorem passes_iff_holds
    (table : TransitionTable.ofRules amendment.machine.transitions.rules =
      .ok amendment.machine.transitions)
    (named : amendment.identifiers.resolve = .ok details) :
    (∃ stored, amendment.Passes details catalog stored) ↔
      Condition.dataset.Holds amendment catalog ∧
      Condition.editionDocument.Holds amendment catalog ∧
      Condition.version.Holds amendment catalog ∧
      Condition.selector.Holds amendment catalog ∧
      Condition.complete.Holds amendment catalog ∧
      Condition.rule.Holds amendment catalog := by
  have meant : amendment.stored? catalog = catalog.versions.get? details.slot := stored?_eq named
  obtain ⟨-, -, number, -, rfl⟩ := VersionIdentifiers.resolve_eq_ok_iff.mp named
  constructor
  · rintro ⟨stored, passes⟩
    have found := meant.trans passes.version
    obtain ⟨valid, target, type, state, resolved, allowed⟩ :=
      TransitionContext.checkMove_eq_ok_iff.mp passes.checked
    obtain ⟨rule, member, rfl, rfl, source⟩ :=
      (TransitionTable.check_eq_ok_iff_of_ofRules table).mp allowed
    exact ⟨passes.parents.dataset, passes.parents.edition, ⟨stored, found⟩,
      ⟨stored, found, ETag.admits_iff.mp passes.selected⟩, ⟨stored, found, valid⟩,
      stored, found, rule, member, state, DatasetType.resolve_eq_ok_iff.mp resolved, source⟩
  · rintro ⟨dataset, edition, -, ⟨stored, found, selected⟩, ⟨second, foundAgain, valid⟩,
      third, foundStill, rule, member, state, resolved, source⟩
    cases Option.some_inj.mp (found.symm.trans foundAgain)
    cases Option.some_inj.mp (found.symm.trans foundStill)
    refine ⟨stored, ⟨dataset, edition⟩, meant.symm.trans found, ETag.admits_iff.mpr selected, ?_⟩
    refine TransitionContext.checkMove_eq_ok_iff.mpr ⟨valid, rule.target, rule.type, state,
      DatasetType.resolve_eq_ok_iff.mpr resolved, ?_⟩
    exact (TransitionTable.check_eq_ok_iff_of_ofRules table).mpr
      ⟨rule, member, rfl, rfl, source⟩

/-- A request whose conditions all hold names a version and finds all that it needs, and the other
way round. -/
theorem forall_holds_iff
    (table : TransitionTable.ofRules amendment.machine.transitions.rules =
      .ok amendment.machine.transitions) :
    (∀ condition, Condition.Holds amendment catalog condition) ↔
      ∃ details, amendment.identifiers.resolve = .ok details ∧
        Condition.updateType.Holds amendment catalog ∧
        ∃ stored, amendment.Passes details catalog stored := by
  constructor
  · intro holds
    obtain ⟨number, parsed⟩ := holds .number
    have named : amendment.identifiers.resolve =
        .ok ⟨amendment.identifiers.datasetId, amendment.identifiers.edition, number⟩ :=
      VersionIdentifiers.resolve_eq_ok_iff.mpr
        ⟨holds .datasetId, holds .edition, number, parsed, rfl⟩
    exact ⟨_, named, holds .updateType, (passes_iff_holds table named).mpr
      ⟨holds .dataset, holds .editionDocument, holds .version, holds .selector, holds .complete,
        holds .rule⟩⟩
  · rintro ⟨details, named, known, passes⟩ condition
    obtain ⟨dataset, edition, version, selector, complete, rule⟩ :=
      (passes_iff_holds table named).mp passes
    obtain ⟨hasDataset, hasEdition, number, parsed, -⟩ :=
      VersionIdentifiers.resolve_eq_ok_iff.mp named
    cases condition with
    | datasetId => exact hasDataset
    | edition => exact hasEdition
    | number => exact ⟨number, parsed⟩
    | updateType => exact known
    | dataset => exact dataset
    | editionDocument => exact edition
    | version => exact version
    | selector => exact selector
    | complete => exact complete
    | rule => exact rule

/-! ### The first condition that fails -/

/-- A request with a part of its identifiers missing has the error of the first one. -/
theorem verdict_of_unnamed {condition : Condition}
    (early : condition = .datasetId ∨ condition = .edition ∨ condition = .number)
    (held : ∀ passed ∈ condition.before, passed.Holds amendment catalog)
    (fails : ¬condition.Holds amendment catalog) :
    ∃ error, condition.Reports amendment catalog error ∧
      amendment.verdict catalog = .error error := by
  have rejected {error : CatalogError} (unresolved : amendment.identifiers.resolve = .error error) :
      amendment.verdict catalog = .error error := by
    unfold verdict
    rw [unresolved]
    rfl
  rcases early with rfl | rfl | rfl
  · have empty : amendment.identifiers.datasetId = "" := not_not.mp fails
    refine ⟨_, rfl, rejected ?_⟩
    simp [VersionIdentifiers.resolve, empty]
  · have dataset : amendment.identifiers.datasetId ≠ "" := held .datasetId (by decide)
    have empty : amendment.identifiers.edition = "" := not_not.mp fails
    refine ⟨_, rfl, rejected ?_⟩
    simp [VersionIdentifiers.resolve, dataset, empty]
  · have dataset : amendment.identifiers.datasetId ≠ "" := held .datasetId (by decide)
    have edition : amendment.identifiers.edition ≠ "" := held .edition (by decide)
    refine ⟨_, rfl, rejected ?_⟩
    simp [VersionIdentifiers.resolve, dataset, edition, parseVersionNumber_eq_error fails,
      Except.map]

/-- A request for a version has the error of the first of the remaining conditions that fails. -/
theorem verdict_of_unfit
    (table : TransitionTable.ofRules amendment.machine.transitions.rules =
      .ok amendment.machine.transitions)
    (named : amendment.identifiers.resolve = .ok details) {condition : Condition}
    (late : .updateType ∈ condition.before)
    (held : ∀ passed ∈ condition.before, passed.Holds amendment catalog)
    (fails : ¬condition.Holds amendment catalog) :
    ∃ error, condition.Reports amendment catalog error ∧
      amendment.verdict catalog = .error error := by
  have known : Condition.updateType.Holds amendment catalog := held .updateType late
  have meant : amendment.stored? catalog = catalog.versions.get? details.slot := stored?_eq named
  rw [verdict_eq named known]
  obtain ⟨-, -, number, -, rfl⟩ := VersionIdentifiers.resolve_eq_ok_iff.mp named
  have parents (hasDataset : .dataset ∈ condition.before)
      (hasEdition : .editionDocument ∈ condition.before) : catalog.HasParents
        ⟨amendment.identifiers.datasetId, amendment.identifiers.edition, number⟩ :=
    ⟨held .dataset hasDataset, held .editionDocument hasEdition⟩
  cases condition with
  | datasetId | edition | number | updateType => exact absurd late (by decide)
  | dataset =>
    unfold Machine.verdict
    rw [Catalog.getDataset_eq_error fails]
    exact ⟨_, rfl, rfl⟩
  | editionDocument =>
    obtain ⟨dataset, found⟩ := held .dataset (by decide)
    unfold Machine.verdict
    rw [Catalog.getDataset_eq_ok_iff.mpr found, Catalog.checkEdition_eq_error fails]
    exact ⟨_, rfl, rfl⟩
  | version =>
    rw [Machine.verdict_of_hasParents (parents (by decide) (by decide)),
      Catalog.getVersion_eq_error fun stored found => absurd ⟨stored, meant.trans found⟩ fails]
    exact ⟨_, rfl, rfl⟩
  | selector =>
    rw [Machine.verdict_of_hasParents (parents (by decide) (by decide)),
      Catalog.getVersion_eq_error fun stored found admitted =>
        fails ⟨stored, meant.trans found, ETag.admits_iff.mp admitted⟩]
    exact ⟨_, rfl, rfl⟩
  | complete =>
    obtain ⟨stored, found, selected⟩ := held .selector (by decide)
    rw [Machine.verdict_of_found (parents (by decide) (by decide)) (meant.symm.trans found)
      (ETag.admits_iff.mpr selected)]
    cases valid : (Version.combine stored amendment.update).validate with
    | ok => exact absurd ⟨stored, found, valid⟩ fails
    | error error =>
      refine ⟨error, ⟨stored, found, valid⟩, ?_⟩
      unfold TransitionContext.checkMove
      rw [valid]
      rfl
  | rule =>
    obtain ⟨stored, found, selected⟩ := held .selector (by decide)
    obtain ⟨second, foundAgain, valid⟩ := held .complete (by decide)
    cases Option.some_inj.mp (found.symm.trans foundAgain)
    rw [Machine.verdict_of_found (parents (by decide) (by decide)) (meant.symm.trans found)
      (ETag.admits_iff.mpr selected)]
    have refused : TransitionContext.checkMove amendment.machine.transitions stored
        (Version.combine stored amendment.update) = .error .stateTransitionNotAllowed := by
      refine TransitionContext.checkMove_eq_error valid fun allowed => fails ?_
      have passes := (passes_iff_holds table named).mp ⟨stored, parents (by decide) (by decide),
        meant.symm.trans found, ETag.admits_iff.mpr selected, allowed⟩
      exact passes.2.2.2.2.2
    rw [refused]
    exact ⟨_, rfl, rfl⟩

/-- A request comes to the error of the first condition that fails. -/
theorem verdict_of_first_failing
    (table : TransitionTable.ofRules amendment.machine.transitions.rules =
      .ok amendment.machine.transitions) {condition : Condition}
    (held : ∀ passed ∈ condition.before, passed.Holds amendment catalog)
    (fails : ¬condition.Holds amendment catalog) :
    ∃ error, condition.Reports amendment catalog error ∧
      amendment.verdict catalog = .error error := by
  have named (first : .datasetId ∈ condition.before) (second : .edition ∈ condition.before)
      (third : .number ∈ condition.before) :
      ∃ details, amendment.identifiers.resolve = .ok details := by
    obtain ⟨number, parsed⟩ := held .number third
    exact ⟨_, VersionIdentifiers.resolve_eq_ok_iff.mpr
      ⟨held .datasetId first, held .edition second, number, parsed, rfl⟩⟩
  cases condition with
  | datasetId => exact verdict_of_unnamed (.inl rfl) held fails
  | edition => exact verdict_of_unnamed (.inr (.inl rfl)) held fails
  | number => exact verdict_of_unnamed (.inr (.inr rfl)) held fails
  | updateType =>
    obtain ⟨details, resolved⟩ := named (by decide) (by decide) (by decide)
    refine ⟨_, rfl, ?_⟩
    unfold verdict
    rw [resolved]
    exact if_pos (unknown_iff_not_holds.mpr fails)
  | dataset | editionDocument | version | selector | complete | rule =>
    obtain ⟨details, resolved⟩ := named (by decide) (by decide) (by decide)
    exact verdict_of_unfit table resolved (by decide) held fails

/-! ### Requests at the gate -/

/-- A request that names a version and has no unknown type goes on to the version. -/
theorem isFor_of_holds (named : amendment.identifiers.resolve = .ok details)
    (known : Condition.updateType.Holds amendment catalog) : amendment.IsFor details := by
  unfold IsFor request Machine.amend
  rw [named]
  exact if_neg fun unknown => unknown_iff_not_holds.mp unknown known

/-- The verdict is a stored version exactly when all conditions hold. -/
theorem exists_verdict_eq_ok_iff
    (table : TransitionTable.ofRules amendment.machine.transitions.rules =
      .ok amendment.machine.transitions) :
    (∃ stored, amendment.verdict catalog = .ok stored) ↔
      ∀ condition, Condition.Holds amendment catalog condition := by
  rw [forall_holds_iff table]
  constructor
  · rintro ⟨stored, accepted⟩
    obtain ⟨details, named, decided⟩ := Result.bind_eq_ok_iff.mp accepted
    by_cases known : Condition.updateType.Holds amendment catalog
    · rw [if_neg fun unknown => unknown_iff_not_holds.mp unknown known] at decided
      exact ⟨details, named, known, stored, Machine.verdict_eq_ok_iff.mp decided⟩
    · rw [if_pos (unknown_iff_not_holds.mpr known)] at decided
      cases decided
  · rintro ⟨details, named, known, stored, passes⟩
    exact ⟨stored, (verdict_eq named known).trans (Machine.verdict_eq_ok_iff.mpr passes)⟩

section Run

variable (filed : site.catalog.WellFiled)
  (free : ∀ details, amendment.identifiers.resolve = .ok details →
    site.arena.IsFree details.resourceKey)
include filed free

/-- A request that is accepted puts the candidate into the slot of its version. -/
theorem run_of_verdict_eq_ok {stored : Version}
    (accepted : amendment.verdict site.catalog = .ok stored) :
    ∃ details reading, amendment.identifiers.resolve = .ok details ∧
      site.catalog.versions.get? details.slot = some stored ∧
      site.Stores details
        (Version.stamp (site.calendar reading) stored (Version.combine stored amendment.update))
        (amendment.request.run Site.perform site).2 := by
  obtain ⟨details, named, decided⟩ := Result.bind_eq_ok_iff.mp accepted
  by_cases known : Condition.updateType.Holds amendment site.catalog
  · rw [if_neg fun unknown => unknown_iff_not_holds.mp unknown known] at decided
    have passes := Machine.verdict_eq_ok_iff.mp decided
    rw [isFor_of_holds named known]
    rcases Machine.stores_or_leaves_of_amendVersion amendment.machine details amendment.update
        amendment.options filed (free details named) with
      ⟨current, reading, passesToo, stores⟩ | ⟨unfit, -⟩
    · cases Option.some_inj.mp (passes.version.symm.trans passesToo.version)
      exact ⟨details, reading, named, passes.version, stores⟩
    · exact absurd passes (unfit stored)
  · rw [if_pos (unknown_iff_not_holds.mpr known)] at decided
    cases decided

/-- A request that is rejected fails with the error of the verdict and changes nothing. -/
theorem run_of_verdict_eq_error {error : CatalogError}
    (rejected : amendment.verdict site.catalog = .error error) :
    (amendment.request.run Site.perform site).1 = .error error ∧
      (amendment.request.run Site.perform site).2.catalog = site.catalog ∧
      (amendment.request.run Site.perform site).2.journal = site.journal := by
  rcases Result.bind_eq_error_iff.mp rejected with unresolved | ⟨details, named, decided⟩
  · have request : amendment.request = .done (.error error) := by
      unfold request Machine.amend
      rw [unresolved]
    rw [request]
    exact ⟨rfl, rfl, rfl⟩
  by_cases known : Condition.updateType.Holds amendment site.catalog
  · rw [if_neg fun unknown => unknown_iff_not_holds.mp unknown known] at decided
    rw [isFor_of_holds named known]
    obtain ⟨arena, ran⟩ := Machine.run_amendVersion amendment.machine details amendment.update
      amendment.options (free details named)
    have there : amendment.machine.verdict details amendment.update amendment.options
      (site.later.withArena arena).catalog = .error error := decided
    refine ⟨?_, ?_⟩
    · rw [ran]
      exact Machine.run_locked_of_verdict_eq_error there
    · rcases Machine.stores_or_leaves_of_amendVersion amendment.machine details amendment.update
          amendment.options filed (free details named) with
        ⟨stored, _, passes, -⟩ | ⟨-, unchanged⟩
      · exact nomatch decided.symm.trans (Machine.verdict_eq_ok_iff.mpr passes)
      · exact unchanged
  · have unknown := unknown_iff_not_holds.mpr known
    rw [if_pos unknown] at decided
    cases decided
    have request : amendment.request = .done (.error .invalidDatasetType) := by
      unfold request Machine.amend
      rw [named]
      exact if_pos unknown
    rw [request]
    exact ⟨rfl, rfl, rfl⟩

/-- On a site that serves, and where the lock is free, a request writes its version exactly when all
conditions hold; the document that it puts into the slot is then the candidate, freshly stamped.
When a condition fails and those before it hold, the request fails with the error of that condition
and leaves the catalog alone. -/
theorem gate_is_exact
    (table : TransitionTable.ofRules amendment.machine.transitions.rules =
      .ok amendment.machine.transitions) :
    let done := amendment.request.run Site.perform site
    ((∃ slot, Write.documentsAt slot done.2.journal ≠ Write.documentsAt slot site.journal) ↔
      ∀ condition, Condition.Holds amendment site.catalog condition) ∧
    ((∀ condition, Condition.Holds amendment site.catalog condition) →
      ∃ details stored reading, amendment.identifiers.resolve = .ok details ∧
        site.catalog.versions.get? details.slot = some stored ∧
        site.Stores details
          (Version.stamp (site.calendar reading) stored
            (Version.combine stored amendment.update)) done.2) ∧
    ∀ condition, ¬Condition.Holds amendment site.catalog condition →
      (∀ passed ∈ condition.before, passed.Holds amendment site.catalog) →
      ∃ error, condition.Reports amendment site.catalog error ∧ done.1 = .error error ∧
        done.2.catalog = site.catalog := by
  intro done
  have accepted (holds : ∀ condition, Condition.Holds amendment site.catalog condition) :
      ∃ details stored reading, amendment.identifiers.resolve = .ok details ∧
        site.catalog.versions.get? details.slot = some stored ∧
        site.Stores details
          (Version.stamp (site.calendar reading) stored
            (Version.combine stored amendment.update)) done.2 := by
    obtain ⟨stored, verdict⟩ := (exists_verdict_eq_ok_iff table).mpr holds
    obtain ⟨details, reading, rest⟩ := run_of_verdict_eq_ok filed free verdict
    exact ⟨details, stored, reading, rest⟩
  refine ⟨⟨?_, ?_⟩, accepted, ?_⟩
  · rintro ⟨slot, written⟩
    refine (exists_verdict_eq_ok_iff table).mp ?_
    cases verdict : amendment.verdict site.catalog with
    | ok stored => exact ⟨stored, rfl⟩
    | error error =>
      obtain ⟨-, -, journal⟩ := run_of_verdict_eq_error filed free verdict
      exact absurd (congrArg (Write.documentsAt slot) journal) written
  · intro holds
    obtain ⟨details, _, _, -, -, stores⟩ := accepted holds
    refine ⟨details.slot, ?_⟩
    rw [stores.documents]
    simp
  · intro condition fails held
    obtain ⟨error, reports, rejected⟩ := verdict_of_first_failing table held fails
    obtain ⟨failed, unchanged, -⟩ := run_of_verdict_eq_error filed free rejected
    exact ⟨error, reports, failed, unchanged⟩

end Run

/-- The sample meets all conditions for its publication, so it is written. -/
theorem gate_is_exact_sample :
    let amendment : Amendment :=
      ⟨{}, ⟨"cpih01", "time-series", "1"⟩, { state := some .published }, {}⟩
    let done := amendment.request.run Site.perform Site.sample
    TransitionTable.ofRules amendment.machine.transitions.rules =
      .ok amendment.machine.transitions ∧
    Site.sample.catalog.WellFiled ∧
    (∀ details, amendment.identifiers.resolve = .ok details →
      Site.sample.arena.IsFree details.resourceKey) ∧
    (∀ condition, Condition.Holds amendment Site.sample.catalog condition) ∧
    ∃ slot, Write.documentsAt slot done.2.journal ≠
      Write.documentsAt slot Site.sample.journal := by
  intro amendment done
  have table : TransitionTable.ofRules amendment.machine.transitions.rules =
      .ok amendment.machine.transitions :=
    TransitionTable.ofRules_eq_ok_iff.mpr ⟨rfl, by decide +kernel⟩
  have free (details : VersionDetails) (_ : amendment.identifiers.resolve = .ok details) :
      Site.sample.arena.IsFree details.resourceKey := Arena.isFree_new _
  let stored : Version := {
    id := "import-1", datasetId := "cpih01", edition := "time-series", number := 1
    type := "filterable", state := some .associated, releaseDate := "2024-01-17"
    links := some { version := some ⟨"1", "/versions/1"⟩ } }
  have found : amendment.stored? Site.sample.catalog = some stored := by cbv
  have holds (condition : Condition) : condition.Holds amendment Site.sample.catalog := by
    cases condition with
    | datasetId | edition => exact ne_of_beq_false rfl
    | number => exact ⟨1, by cbv⟩
    | updateType => exact .inl rfl
    | dataset | editionDocument => exact ⟨_, by cbv⟩
    | version => exact ⟨stored, found⟩
    | selector => exact ⟨stored, found, .inl rfl⟩
    | complete => exact ⟨stored, found, by cbv⟩
    | rule =>
      exact ⟨stored, found, ⟨.published, .filterable, [.associated, .published]⟩, by decide, rfl,
        by decide, .associated, by decide, rfl⟩
  exact ⟨table, Site.wellFiled_sample, free, holds,
    (gate_is_exact Site.wellFiled_sample free table).1.mpr holds⟩

end Amendment

end ReleaseCatalog
