/-
When a request decides. Under the lock of a version a request reads first, and then it writes the
version or fails. Which of the two it does depends on the document in the slot and on whether its
parents are there. While the lock is held nobody else writes the slot, and parents are never taken
away; so the request decides as if it had made all its reads at the moment of its last one, and when
it writes it does so at the first attempt. All that it does afterwards is for the parents.
-/

import ReleaseCatalog.Proofs.Workflow.Cascade
import ReleaseCatalog.Proofs.Workflow.Uninterrupted

namespace ReleaseCatalog

namespace Catalog

/-- The parents of a version are there. -/
structure HasParents (details : VersionDetails) (catalog : Catalog) : Prop where
  dataset : ∃ dataset, catalog.datasets.get? details.datasetId = some dataset
  edition : ∃ edition, catalog.editions.get? (details.datasetId, details.edition) = some edition

/-- The later catalog still has all that requests for a version go by. -/
structure Keeps (details : VersionDetails) (catalog later : Catalog) : Prop where
  version : later.versions.get? details.slot = catalog.versions.get? details.slot
  dataset : (∃ dataset, catalog.datasets.get? details.datasetId = some dataset) →
    ∃ dataset, later.datasets.get? details.datasetId = some dataset
  edition : (∃ edition,
    catalog.editions.get? (details.datasetId, details.edition) = some edition) →
      ∃ edition, later.editions.get? (details.datasetId, details.edition) = some edition

variable {details : VersionDetails} {catalog later last : Catalog}

theorem Keeps.refl (details : VersionDetails) (catalog : Catalog) :
    catalog.Keeps details catalog :=
  ⟨rfl, id, id⟩

theorem Keeps.trans (keeps : catalog.Keeps details later) (more : later.Keeps details last) :
    catalog.Keeps details last :=
  ⟨more.version.trans keeps.version, more.dataset ∘ keeps.dataset, more.edition ∘ keeps.edition⟩

theorem HasParents.of_keeps (parents : catalog.HasParents details)
    (keeps : catalog.Keeps details later) : later.HasParents details :=
  ⟨keeps.dataset parents.dataset, keeps.edition parents.edition⟩

theorem exists_dataset_writeAll {id : String} (writes : List Write)
    (there : ∃ dataset, catalog.datasets.get? id = some dataset) :
    ∃ dataset, (catalog.writeAll writes).datasets.get? id = some dataset := by
  obtain ⟨dataset, found⟩ := there
  rcases catalog.get?_datasets_writeAll writes id with ⟨document, -, put⟩ | ⟨-, same⟩
  · exact ⟨document, put⟩
  · exact ⟨dataset, same.trans found⟩

theorem exists_edition_writeAll {key : String × String} (writes : List Write)
    (there : ∃ edition, catalog.editions.get? key = some edition) :
    ∃ edition, (catalog.writeAll writes).editions.get? key = some edition := by
  obtain ⟨edition, found⟩ := there
  rcases catalog.get?_editions_writeAll writes key with ⟨document, -, put⟩ | ⟨-, same⟩
  · exact ⟨document, put⟩
  · exact ⟨edition, same.trans found⟩

theorem HasParents.writeAll (parents : catalog.HasParents details) (writes : List Write) :
    (catalog.writeAll writes).HasParents details :=
  ⟨exists_dataset_writeAll writes parents.dataset, exists_edition_writeAll writes parents.edition⟩

/-- Whoever does not write the slot keeps all that requests for the version go by. -/
theorem keeps_writeAll {writes : List Write}
    (elsewhere : ∀ document, Write.version details.slot document ∉ writes) :
    catalog.Keeps details (catalog.writeAll writes) where
  version := by
    rcases catalog.get?_versions_writeAll writes details.slot with ⟨document, member, -⟩ | ⟨-, same⟩
    · exact absurd member (elsewhere document)
    · exact same
  dataset := exists_dataset_writeAll writes
  edition := exists_edition_writeAll writes

end Catalog

namespace Machine

/-- What a request needs to find under the lock to write the version. -/
structure Passes (machine : Machine) (details : VersionDetails) (update : Version)
    (options : AmendOptions) (catalog : Catalog) (stored : Version) : Prop where
  parents : catalog.HasParents details
  version : catalog.versions.get? details.slot = some stored
  selected : ETag.admits options.ifMatch stored.eTag = true
  checked : TransitionContext.checkMove machine.transitions stored
    (Version.combine stored update) = .ok ()

/-- The writes put the version into its slot that the update makes of the stored one. -/
structure Commits (machine : Machine) (details : VersionDetails) (update : Version)
    (options : AmendOptions) (now : Timestamp) (catalog : Catalog) (writes : List Write)
    (stored : Version) : Prop where
  passes : machine.Passes details update options catalog stored
  written : Write.documentsAt details.slot writes =
    [Version.stamp now stored (Version.combine stored update)]

/-- The steps have failed, because there is no version that passes. -/
structure Fails (machine : Machine) (details : VersionDetails) (update : Version)
    (options : AmendOptions) (steps : Steps (Result Version)) (catalog : Catalog) : Prop where
  unfit (stored : Version) : ¬machine.Passes details update options catalog stored
  failed : ∃ error, steps = .done (.error error)

/-- The steps have only read so far. Whenever their next call comes, if the others have kept all
that the request goes by, it puts the version into its slot, or it writes nothing; and the steps
fail only when the version does not pass. -/
def Undecided (machine : Machine) (details : VersionDetails) (update : Version)
    (options : AmendOptions) : Steps (Result Version) → Catalog → Prop
  | .step (.store call) next, catalog => ∀ now later, catalog.Keeps details later →
    later.WellFiled →
      (∃ stored, machine.Commits details update options now later (call.writes now later) stored ∧
        Steps.ForParents (next (later.perform now call).1)) ∨
      (call.writes now later = [] ∧
        (machine.Undecided details update options (next (later.perform now call).1) later ∨
          machine.Fails details update options (next (later.perform now call).1) later))
  | _, _ => False

variable {machine : Machine} {details : VersionDetails} {update : Version}
  {options : AmendOptions} {catalog later : Catalog} {α : Type}

theorem Undecided.of_keeps {steps : Steps (Result Version)}
    (undecided : machine.Undecided details update options steps catalog)
    (keeps : catalog.Keeps details later) :
    machine.Undecided details update options steps later := by
  cases steps with
  | done => exact undecided
  | step action next =>
    cases action with
    | store call => exact fun now last more filed => undecided now last (keeps.trans more) filed
    | generate | pause | now => exact undecided

/-- Steps that begin with a call that only reads are undecided, if they go on undecided with what
was found and nothing passes when it fails. -/
theorem undecided_read_andThen {call : StoreCall}
    (reads : ∀ now catalog, call.writes now catalog = [])
    {next : call.Value → Steps (Result Version)}
    (failed : ∀ {now later error}, (later.perform now call).1 = .error error →
      ∀ stored, ¬machine.Passes details update options later stored)
    (found : ∀ {now later value}, catalog.Keeps details later → later.WellFiled →
      (later.perform now call).1 = .ok value →
        machine.Undecided details update options (next value) later ∨
          machine.Fails details update options (next value) later) :
    machine.Undecided details update options ((Steps.store call).andThen next) catalog := by
  intro now later keeps filed
  refine .inr ⟨reads now later, ?_⟩
  have answers (answer : call.Answer) (answered : (later.perform now call).1 = answer) :
      machine.Undecided details update options (Steps.andThen (.done answer) next) later ∨
        machine.Fails details update options (Steps.andThen (.done answer) next) later := by
    cases answer with
    | error error => exact .inr ⟨failed answered, error, rfl⟩
    | ok value => exact found keeps filed answered
  exact answers _ rfl

/-- Steps that begin with an attempt to write the candidate are undecided. -/
theorem undecided_persist_andThen {context : TransitionContext} (path : WritePath)
    {next : Version → Steps (Result Version)} (afterwards : ∀ version, (next version).ForParents)
    (own : context.current.key = details.slot)
    (candidate : context.candidate = Version.combine context.current update)
    (passes : machine.Passes details update options catalog context.current) :
    machine.Undecided details update options ((context.persist path).andThen next) catalog := by
  intro now later keeps _
  have found : later.versions.get? context.current.key = some context.current := by
    rw [own, keeps.version, passes.version]
  have admitted :
      ETag.admits (context.writeSelector context.current) context.current.eTag = true := by
    unfold TransitionContext.writeSelector
    by_cases all : (context.ifMatch == ETag.any) = true
    · rw [if_pos all]
      exact ETag.admits_any _
    · rw [if_neg all]
      exact ETag.admits_self _
  have answered := Catalog.updateVersion_of_found found now path context.candidate
    (context.writeSelector context.current)
  rw [if_pos admitted] at answered
  refine .inl ⟨context.current, ⟨⟨passes.parents.of_keeps keeps, ?_, passes.selected,
    passes.checked⟩, ?_⟩, ?_⟩
  · rw [keeps.version, passes.version]
  · show Write.documentsAt details.slot ((StoreCall.updateVersion path context.current
      context.candidate (context.writeSelector context.current)).writes now later) = _
    rw [Catalog.writes_updateVersion_of_found found, if_pos admitted, own, candidate]
    exact Write.documentsAt_versionWrites _ _ _ _
  · have answer : (later.perform now (.updateVersion path context.current context.candidate
        (context.writeSelector context.current))).1 =
          .ok (Version.stamp now context.current context.candidate).eTag :=
      congrArg Prod.fst answered
    rw [answer]
    exact afterwards _

/-- A move is refused, or its next call writes the candidate. -/
theorem undecided_move {dataset : Dataset} {current : Version}
    (filed : catalog.WellFiled) (parents : catalog.HasParents details)
    (found : catalog.versions.get? details.slot = some current)
    (selected : ETag.admits options.ifMatch current.eTag = true) :
    machine.Undecided details update options
        (machine.move details update options dataset current) catalog ∨
      machine.Fails details update options
        (machine.move details update options dataset current) catalog := by
  cases checked : TransitionContext.checkMove machine.transitions current
      (Version.combine current update) with
  | error error =>
    refine .inr ⟨fun stored passes => ?_, error, ?_⟩
    · cases Option.some_inj.mp (found.symm.trans passes.version)
      rw [passes.checked] at checked
      cases checked
    · show Steps.require (TransitionContext.checkMove _ _ _) _ = _
      rw [checked]
      rfl
  | ok =>
    obtain ⟨valid, target, type, state, resolved, -⟩ :=
      TransitionContext.checkMove_eq_ok_iff.mp checked
    let context := machine.context details update options dataset current
    have steps : machine.move details update options dataset current =
        (context.persist (.forStatic type.isStatic)).andThen
          ((machine.handlers.handler target).afterwards context type) := by
      simp only [Machine.move, checked, Steps.require, state]
      show (machine.handlers.handler target).steps context = _
      rw [Handler.steps_eq _ _ valid]
      show Steps.require (Version.combine current update).resolvedType _ = _
      rw [resolved]
      rfl
    rw [steps]
    exact .inl (undecided_persist_andThen _
      (Handler.forParents_afterwards context (machine.handlers.handler target) type)
      (filed _ _ found) rfl ⟨parents, found, selected, checked⟩)

/-- The steps under the lock are undecided when they begin. -/
theorem undecided_locked (machine : Machine) (details : VersionDetails) (update : Version)
    (options : AmendOptions) (catalog : Catalog) :
    machine.Undecided details update options (machine.locked details update options) catalog := by
  refine undecided_read_andThen (fun _ _ => rfl) ?_ ?_
  · intro now later error failed stored passes
    obtain ⟨dataset, found⟩ := passes.parents.dataset
    have answered : later.getDataset details.datasetId = .ok dataset :=
      Catalog.getDataset_eq_ok_iff.mpr found
    exact nomatch failed.symm.trans answered
  intro now catalog dataset _ _ readDataset
  have foundDataset := Catalog.getDataset_eq_ok_iff.mp readDataset
  refine .inl (undecided_read_andThen (fun _ _ => rfl) ?_ ?_)
  · intro now later error failed stored passes
    have answered : later.checkEdition details.datasetId details.edition none = .ok () :=
      Catalog.checkEdition_eq_ok_iff.mpr passes.parents.edition
    exact nomatch failed.symm.trans answered
  intro now second _ keeps _ readEdition
  have parents : second.HasParents details :=
    ⟨keeps.dataset ⟨dataset, foundDataset⟩, Catalog.checkEdition_eq_ok_iff.mp readEdition⟩
  refine .inl (undecided_read_andThen (fun _ _ => rfl) ?_ ?_)
  · intro now later error failed stored passes
    have answered : later.getVersion details.slot options.ifMatch = .ok stored :=
      Catalog.getVersion_eq_ok_iff.mpr ⟨passes.version, passes.selected⟩
    exact nomatch failed.symm.trans answered
  intro now third current keeps filed readVersion
  obtain ⟨found, selected⟩ := Catalog.getVersion_eq_ok_iff.mp readVersion
  exact undecided_move filed (parents.of_keeps keeps) found selected

end Machine

/-! ### On a site that serves -/

namespace Catalog

variable {details : VersionDetails} {catalog : Catalog}

/-- The slot has the document that was put there, if it was the only one. -/
theorem version_writeAll_of_documentsAt {slot : VersionKey} {writes : List Write}
    {document : Version} (written : Write.documentsAt slot writes = [document]) :
    (catalog.writeAll writes).versions.get? slot = some document := by
  rcases catalog.get?_versions_writeAll writes slot with ⟨other, member, put⟩ | ⟨elsewhere, -⟩
  · have own := Write.mem_documentsAt_iff.mpr member
    rw [written, List.mem_singleton] at own
    rw [put, own]
  · rw [Write.documentsAt_eq_nil_iff.mpr elsewhere] at written
    cases written

end Catalog

/-- On the site afterwards the document was put into the slot once, and the parents are there. -/
structure Site.Stores (site : Site) (details : VersionDetails) (document : Version)
    (last : Site) : Prop where
  documents : Write.documentsAt details.slot last.journal =
    Write.documentsAt details.slot site.journal ++ [document]
  version : last.catalog.versions.get? details.slot = some document
  parents : last.catalog.HasParents details

namespace Steps

open Program

variable {α : Type}

/-- What is done for the parents leaves the slot alone. -/
theorem ForParents.run {steps : Steps α} (forParents : steps.ForParents)
    (details : VersionDetails) (site : Site) :
    Write.documentsAt details.slot (steps.run Site.act site).2.journal =
        Write.documentsAt details.slot site.journal ∧
      site.catalog.Keeps details (steps.run Site.act site).2.catalog := by
  induction steps generalizing site with
  | done => exact ⟨rfl, .refl details site.catalog⟩
  | step action next inductionHypothesis =>
    obtain ⟨documents, keeps⟩ :=
      inductionHypothesis _ (forParents.2 (site.act action).1 trivial) (site.act action).2
    have elsewhere (document : Version) :
        Write.version details.slot document ∉ site.writes action :=
      forParents.1.not_version_mem_writes
    obtain ⟨journal, catalog⟩ : (site.act action).2.journal = site.journal ++ site.writes action ∧
        (site.act action).2.catalog = site.catalog.writeAll (site.writes action) := by
      cases action with
      | store call => exact ⟨rfl, Catalog.perform_eq_writeAll _ _ _⟩
      | generate | pause | now => exact ⟨(List.append_nil _).symm, rfl⟩
    refine ⟨documents.trans ?_, Catalog.Keeps.trans ?_ keeps⟩
    · rw [journal, Write.documentsAt_append, Write.documentsAt_eq_nil_iff.mpr elsewhere,
        List.append_nil]
    · rw [catalog]
      exact Catalog.keeps_writeAll elsewhere

end Steps

namespace Machine

open Program

variable {machine : Machine} {details : VersionDetails} {update : Version}
  {options : AmendOptions}

/-- With nobody else there, undecided steps put the version into its slot if it passes, and
otherwise leave the catalog alone. -/
theorem Undecided.run {steps : Steps (Result Version)} {site : Site}
    (undecided : machine.Undecided details update options steps site.catalog)
    (filed : site.catalog.WellFiled) :
    (∃ stored reading, machine.Passes details update options site.catalog stored ∧
      site.Stores details
        (Version.stamp (site.calendar reading) stored (Version.combine stored update))
        (steps.run Site.act site).2) ∨
    ((∀ stored, ¬machine.Passes details update options site.catalog stored) ∧
      (steps.run Site.act site).2.catalog = site.catalog ∧
      (steps.run Site.act site).2.journal = site.journal) := by
  induction steps generalizing site with
  | done => exact undecided.elim
  | step action next inductionHypothesis =>
    cases action with
    | generate | pause | now => exact undecided.elim
    | store call =>
      rcases undecided site.now site.catalog (.refl details site.catalog) filed with
        ⟨stored, commits, afterwards⟩ | ⟨reads, goesOn⟩
      · refine .inl ⟨stored, 0, commits.passes, ?_⟩
        obtain ⟨documents, keeps⟩ := afterwards.run details (site.store call).2
        have catalog : (site.store call).2.catalog =
            site.catalog.writeAll (call.writes site.now site.catalog) :=
          Catalog.perform_eq_writeAll _ _ _
        refine ⟨documents.trans ?_, keeps.version.trans ?_, Catalog.HasParents.of_keeps ?_ keeps⟩
        · show Write.documentsAt details.slot (site.journal ++ _) = _
          rw [Write.documentsAt_append, commits.written]
          rfl
        · rw [catalog, Catalog.version_writeAll_of_documentsAt commits.written]
          rfl
        · rw [catalog]
          exact commits.passes.parents.writeAll _
      · have after : (site.store call).2 = site.later := by
          rw [Site.store_snd, reads, Site.make_nil]
        show (∃ stored reading, _ ∧
            Site.Stores _ _ _ ((next _).run Site.act (site.store call).2).2) ∨
          (_ ∧ ((next _).run Site.act (site.store call).2).2.catalog = _ ∧
            ((next _).run Site.act (site.store call).2).2.journal = _)
        rw [after]
        rcases goesOn with undecidedStill | fails
        · rcases @inductionHypothesis _ site.later undecidedStill filed with
            ⟨stored, reading, passes, stores⟩ | failed
          · exact .inl ⟨stored, reading + 1, passes, stores.documents, stores.version,
              stores.parents⟩
          · exact .inr failed
        · obtain ⟨error, ended⟩ := fails.failed
          refine .inr ⟨fails.unfit, ?_⟩
          show (Program.run Site.act (next (site.catalog.perform site.now call).1)
              site.later).2.catalog = _ ∧
            (Program.run Site.act (next (site.catalog.perform site.now call).1)
              site.later).2.journal = _
          rw [ended]
          exact ⟨rfl, rfl⟩

/-- With nobody else there, a request for a free lock writes the version once, if it passes, and
otherwise leaves the catalog alone. -/
theorem stores_or_leaves_of_amendVersion (machine : Machine) (details : VersionDetails)
    (update : Version) (options : AmendOptions) {site : Site} (filed : site.catalog.WellFiled)
    (free : site.arena.IsFree details.resourceKey) :
    let last := ((machine.amendVersion details update options).run Site.perform site).2
    (∃ stored reading, machine.Passes details update options site.catalog stored ∧
      site.Stores details
        (Version.stamp (site.calendar reading) stored (Version.combine stored update)) last) ∨
    ((∀ stored, ¬machine.Passes details update options site.catalog stored) ∧
      last.catalog = site.catalog ∧ last.journal = site.journal) := by
  obtain ⟨arena, ran⟩ := run_amendVersion machine details update options free
  rw [ran]
  have undecided := undecided_locked machine details update options
    (site.later.withArena arena).catalog
  rcases undecided.run filed with ⟨stored, reading, passes, stores⟩ | unfit
  · exact .inl ⟨stored, reading + 1, passes, stores.documents, stores.version, stores.parents⟩
  · exact .inr unfit

end Machine

end ReleaseCatalog
