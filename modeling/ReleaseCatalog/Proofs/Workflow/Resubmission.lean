/-
What a version looks like when its publication was submitted twice. The first attempt had written
the version before it failed, so the second one merges the update into a document that has it
already. All fields take the second merge as they took the first, but for the two that are added
to: alerts and latest changes stand in the version once for each of the two writes.
-/

import ReleaseCatalog.Proofs.Concurrency.Commitment
import ReleaseCatalog.Proofs.Workflow.Merging
import ReleaseCatalog.Proofs.Workflow.Resumption

namespace ReleaseCatalog

/-! ### Merging into the result of a merge -/

namespace Merge

/-- An empty list can be added twice. -/
theorem append_append_of_nil {α : Type} (stored : Option (List α)) {update : Option (List α)}
    (empty : update.getD [] = []) :
    append (append stored update) update = append stored update := by
  rw [append_append, empty]
  cases append stored update <;> simp

end Merge

namespace Version

/-- A version without its date and its tag. -/
def undated (version : Version) : Version :=
  { version with lastUpdated := none, eTag := "" }

/-- A version to which the alerts and latest changes of an update were added. -/
def addNotes (version update : Version) : Version :=
  { version with
    alerts := Merge.append version.alerts update.alerts
    latestChanges := Merge.append version.latestChanges update.latestChanges }

/-- An update that is merged into its own result adds its notes once more and changes nothing
else. -/
theorem combine_stamp_combine (now : Timestamp) (stored update : Version) :
    combine (stamp now stored (combine stored update)) update =
      (stamp now stored (combine stored update)).addNotes update := by
  have again : combine (stamp now stored (combine stored update)) update =
      { combine (combine stored update) update with
        lastUpdated := some now
        eTag := (stamp now stored (combine stored update)).eTag } := rfl
  rw [again, combine_combine]
  simp only [addNotes, stamp, combine, Merge.append_append]

/-- What is stored after the second merge is what was stored after the first with the notes once
more, dates and tags apart. -/
theorem undated_stamp_again (first second once : Timestamp) (stored update : Version) :
    (stamp second (stamp first stored (combine stored update))
      (combine (stamp first stored (combine stored update)) update)).undated =
      (addNotes (stamp once stored (combine stored update)) update).undated := by
  rw [combine_stamp_combine]
  rfl

/-- An update without notes can be merged into its own result. -/
theorem addNotes_stamp_of_nil {update : Version} (noAlerts : update.alerts.getD [] = [])
    (noChanges : update.latestChanges.getD [] = []) (now : Timestamp) (stored : Version) :
    addNotes (stamp now stored (combine stored update)) update =
      stamp now stored (combine stored update) := by
  have alerts := Merge.append_append_of_nil stored.alerts noAlerts
  have changes := Merge.append_append_of_nil stored.latestChanges noChanges
  unfold addNotes combine stamp
  simp only [alerts, changes]

end Version

/-! ### Attempts that wrote the version -/

namespace Machine

open Program

variable {machine : Machine} {details : VersionDetails} {update : Version}
  {options : AmendOptions} {site : Site}

/-- Steps that do not find what they need write nothing, whatever else goes wrong. -/
theorem follows_locked_of_unfit
    (unfit : ∀ stored, ¬machine.Passes details update options site.catalog stored) :
    Ensures Steps.disturbed (site.Follows (fun _ : Unit => []) fun _ _ => True)
      (machine.locked details update options) site := by
  refine Steps.follows_read_andThen (fun _ _ => rfl) fun dataset _ ⟨_, readDataset⟩ => ?_
  refine Steps.follows_read_andThen (fun _ _ => rfl) fun _ _ ⟨_, readEdition⟩ => ?_
  refine Steps.follows_read_andThen (fun _ _ => rfl) fun current _ ⟨_, readVersion⟩ => ?_
  have parents : site.catalog.HasParents details :=
    ⟨⟨dataset, Catalog.getDataset_eq_ok_iff.mp readDataset⟩,
      Catalog.checkEdition_eq_ok_iff.mp readEdition⟩
  obtain ⟨found, selected⟩ := Catalog.getVersion_eq_ok_iff.mp readVersion
  refine Steps.follows_require fun _ checked => ?_
  exact absurd ⟨parents, found, selected, checked⟩ (unfit current)

/-- An attempt that came to its end has begun the cascade, if it found what it needs, and otherwise
has written nothing. The lock is free again. -/
theorem writes_of_attempt (standard : machine.handlers = {}) {middle : Site}
    (filed : site.catalog.WellFiled) (free : site.arena.IsFree details.resourceKey)
    (attempt : (machine.amendVersion details update options).Attempt site middle) :
    middle.arena.IsFree details.resourceKey ∧
      ∃ times writes, writes <+: details.cascade update site.catalog times ∧
        middle.catalog = site.catalog.writeAll writes ∧
        middle.journal = site.journal ++ writes ∧
        (writes ≠ [] → ∃ stored, machine.Passes details update options site.catalog stored) := by
  obtain ⟨calendar, events, result, run⟩ := attempt
  have freeAfter {arena : Arena} (visited : arena = site.arena ∨
      arena = site.arena.visited details.resourceKey) : arena.IsFree details.resourceKey := by
    rcases visited with rfl | rfl
    · exact free
    · exact free.visited
  by_cases fit : ∃ stored, machine.Passes details update options site.catalog stored
  · have filedThere : (site.withCalendar calendar).catalog.WellFiled := filed
    obtain ⟨arena, ⟨times, writes, made, begun, -⟩, visited⟩ := run.ends (fun _ _ => id)
      (follows_amendVersion standard details update options filedThere)
    have arenas : middle.arena = arena := made.arena
    refine ⟨?_, times, writes, begun, made.catalog, made.journal, fun _ => fit⟩
    rw [arenas]
    exact freeAfter (visited rfl)
  · have unfit : ∀ arena later, Ensures Steps.disturbed
        ((((site.withCalendar calendar).withArena arena).withCalendar later).Follows
          (fun _ : Unit => []) fun _ _ => True)
        (machine.locked details update options)
        (((site.withCalendar calendar).withArena arena).withCalendar later) := fun arena later =>
      follows_locked_of_unfit fun stored passes => fit ⟨stored, passes⟩
    obtain ⟨arena, ⟨_, writes, made, begun, -⟩, visited⟩ :=
      run.ends (fun _ _ => id) (ensures_amendVersion unfit)
    have arenas : middle.arena = arena := made.arena
    refine ⟨?_, default, writes, ?_, made.catalog, made.journal, fun written => ?_⟩
    · rw [arenas]
      exact freeAfter (visited rfl)
    · rw [List.prefix_nil.mp begun]
      exact List.nil_prefix
    · exact absurd (List.prefix_nil.mp begun) written

/-- After an attempt at a publication that has written the version, the version stands in its slot,
and all is ready for the next attempt. -/
theorem exists_stamp_of_attempt (standard : machine.handlers = {}) {middle : Site}
    (filed : site.catalog.WellFiled) (free : site.arena.IsFree details.resourceKey)
    (published : details.Targets update site.catalog .published)
    (attempt : (machine.amendVersion details update options).Attempt site middle)
    (committed : Write.documentsAt details.slot middle.journal ≠
      Write.documentsAt details.slot site.journal) :
    ∃ stored now, machine.Passes details update options site.catalog stored ∧
      middle.catalog.WellFiled ∧ middle.arena.IsFree details.resourceKey ∧
      middle.catalog.HasParents details ∧
      middle.catalog.versions.get? details.slot =
        some (Version.stamp now stored (Version.combine stored update)) := by
  obtain ⟨freeStill, times, writes, begun, catalog, journal, fit⟩ :=
    writes_of_attempt standard filed free attempt
  have written : Write.documentsAt details.slot writes ≠ [] := by
    intro nothing
    rw [journal, Write.documentsAt_append, nothing, List.append_nil] at committed
    exact committed rfl
  obtain ⟨stored, passes⟩ := fit fun empty => written (congrArg _ empty)
  obtain ⟨dataset, foundDataset⟩ := passes.parents.dataset
  have only (change : Write) (member : change ∈ writes) :
      details.IsOfPublication site.catalog dataset stored (Version.combine stored update) change :=
    VersionDetails.isOfPublication_of_mem_cascade passes.version foundDataset
      (published stored passes.version) (begun.subset member)
  have filedStill := VersionDetails.wellFiled_writeAll_of_isOfPublication only passes.version filed
  have parents := passes.parents.writeAll writes
  rw [← catalog] at filedStill parents
  rcases site.catalog.get?_versions_writeAll writes details.slot with
    ⟨document, member, put⟩ | ⟨elsewhere, -⟩
  · cases only _ member with
    | version now =>
      rw [← catalog] at put
      exact ⟨stored, now, passes, filedStill, freeStill, parents, put⟩
  · exact absurd (Write.documentsAt_eq_nil_iff.mpr elsewhere) written

/-- A version whose publication has been written may be published again. -/
theorem Passes.again (builtIn : machine.transitions = .builtIn) (all : options.ifMatch = ETag.any)
    {catalog later : Catalog} {stored : Version}
    (passes : machine.Passes details update options catalog stored)
    (published : (Version.combine stored update).state = some .published) {now : Timestamp}
    (parents : later.HasParents details)
    (found : later.versions.get? details.slot =
      some (Version.stamp now stored (Version.combine stored update))) :
    machine.Passes details update options later
      (Version.stamp now stored (Version.combine stored update)) where
  parents := parents
  version := found
  selected := by
    rw [all]
    exact ETag.admits_any _
  checked := by
    have checked := passes.checked
    rw [builtIn] at checked ⊢
    exact Version.checkMove_builtIn_again now published checked

/-- What an uninterrupted request for a free lock leaves in the slot of a version that passes. -/
theorem exists_stamp_of_run {stored : Version}
    (passes : machine.Passes details update options site.catalog stored)
    (filed : site.catalog.WellFiled) (free : site.arena.IsFree details.resourceKey) :
    ∃ now, ((machine.amendVersion details update options).run Site.perform
      site).2.catalog.versions.get? details.slot =
        some (Version.stamp now stored (Version.combine stored update)) := by
  rcases stores_or_leaves_of_amendVersion machine details update options filed free with
    ⟨current, reading, passesToo, stores⟩ | ⟨unfit, -⟩
  · cases Option.some_inj.mp (passes.version.symm.trans passesToo.version)
    exact ⟨_, stores.version⟩
  · exact absurd passes (unfit stored)

/-- A request that was not rejected at once went on to the version that its identifiers name. -/
theorem amend_eq_amendVersion_of_attempt {identifiers : VersionIdentifiers}
    (named : identifiers.resolve = .ok details) {middle : Site}
    (attempt : (machine.amend identifiers update options).Attempt site middle)
    (changed : middle.journal ≠ site.journal) :
    machine.amend identifiers update options = machine.amendVersion details update options := by
  unfold amend at attempt ⊢
  rw [named] at attempt ⊢
  by_cases unknown : update.type ≠ "" ∧ DatasetType.resolve? update.type = none
  · simp only [if_pos unknown] at attempt
    obtain ⟨calendar, events, result, run⟩ := attempt
    have ensures : Ensures Request.disturbed
        (fun (_ : Option (Result Version)) last => last.journal = site.journal)
        (.done (.error .invalidDatasetType)) (site.withCalendar calendar) := rfl
    exact absurd (run.ends (fun _ _ => id) ensures) changed
  · simp only [if_neg unknown]

/-- A publication is submitted again after an attempt that had written the version. Then the version
is what an uninterrupted publication would have made of it, date and tag apart, with the alerts and
latest changes of the update added once more; so it is the same when the update has none. -/
theorem amend_again_adds_notes_again (standard : machine.handlers = {})
    (builtIn : machine.transitions = .builtIn) {identifiers : VersionIdentifiers}
    (named : identifiers.resolve = .ok details) (all : options.ifMatch = ETag.any)
    (filed : site.catalog.WellFiled) (free : site.arena.IsFree details.resourceKey)
    (published : details.Targets update site.catalog .published) {middle : Site}
    (attempt : (machine.amend identifiers update options).Attempt site middle)
    (committed : Write.documentsAt details.slot middle.journal ≠
      Write.documentsAt details.slot site.journal)
    (calendar : Nat → Timestamp) :
    ∃ once twice : Version,
      ((machine.amend identifiers update options).run Site.perform
        site).2.catalog.versions.get? details.slot = some once ∧
      ((machine.amend identifiers update options).run Site.perform
        (middle.withCalendar calendar)).2.catalog.versions.get? details.slot = some twice ∧
      twice.undated = (once.addNotes update).undated ∧
      (update.alerts.getD [] = [] → update.latestChanges.getD [] = [] →
        twice.undated = once.undated) := by
  have goesOn := amend_eq_amendVersion_of_attempt named attempt
    fun same => committed (congrArg _ same)
  rw [goesOn] at attempt ⊢
  obtain ⟨stored, first, passes, filedStill, freeStill, parents, found⟩ :=
    exists_stamp_of_attempt standard filed free published attempt committed
  have again : machine.Passes details update options (middle.withCalendar calendar).catalog
      (Version.stamp first stored (Version.combine stored update)) :=
    passes.again builtIn all (published stored passes.version) parents found
  obtain ⟨once, single⟩ := exists_stamp_of_run passes filed free
  obtain ⟨second, resumed⟩ := exists_stamp_of_run again filedStill freeStill
  have notesAgain := Version.undated_stamp_again first second once stored update
  refine ⟨_, _, single, resumed, notesAgain, fun noAlerts noChanges => ?_⟩
  rw [notesAgain, Version.addNotes_stamp_of_nil noAlerts noChanges]

/-- The sample is published with a correction, and the edition cannot be written. Submitted again,
the correction is added once more, so that the version is not the one of a single publication. -/
theorem amend_again_is_not_amend_once :
    let machine : Machine := {}
    let update : Version := {
      state := some .published, alerts := some [{ description := "corrected" }]
      latestChanges := some [{ name := "renamed" }] }
    let request := machine.amend ⟨"cpih01", "time-series", "1"⟩ update { hasDownloads := true }
    let slot : VersionKey := ⟨"cpih01", "time-series", 1⟩
    let failed := request.run (Site.performExcept fun call => call.method = .upsertEdition)
      Site.sample
    failed.1.isOk = false ∧
      (Write.documentsAt slot failed.2.journal).length = 1 ∧
      (request.run Site.perform failed.2).1.isOk = true ∧
      ∃ once twice : Version,
        (request.run Site.perform Site.sample).2.catalog.versions.get? slot = some once ∧
        (request.run Site.perform failed.2).2.catalog.versions.get? slot = some twice ∧
        once.alerts = some [{ description := "corrected" }] ∧
        twice.alerts = some [{ description := "corrected" }, { description := "corrected" }] ∧
        once.latestChanges = some [{ name := "renamed" }] ∧
        twice.latestChanges = some [{ name := "renamed" }, { name := "renamed" }] ∧
        twice.undated ≠ once.undated := by
  intro machine update request slot failed
  let notes (version : Version) := (version.alerts, version.latestChanges)
  have single : ((request.run Site.perform Site.sample).2.catalog.versions.get? slot).map notes =
      some (some [{ description := "corrected" }], some [{ name := "renamed" }]) := by
    decide +kernel
  have double : ((request.run Site.perform failed.2).2.catalog.versions.get? slot).map notes =
      some (some [{ description := "corrected" }, { description := "corrected" }],
        some [{ name := "renamed" }, { name := "renamed" }]) := by
    decide +kernel
  obtain ⟨once, foundOnce, notesOnce⟩ := Option.map_eq_some_iff.mp single
  obtain ⟨twice, foundTwice, notesTwice⟩ := Option.map_eq_some_iff.mp double
  obtain ⟨alertsOnce, changesOnce⟩ := Prod.mk.inj notesOnce
  obtain ⟨alertsTwice, changesTwice⟩ := Prod.mk.inj notesTwice
  refine ⟨by decide +kernel, by decide +kernel, by decide +kernel, once, twice, foundOnce,
    foundTwice, alertsOnce, alertsTwice, changesOnce, changesTwice, fun same => ?_⟩
  have undated : twice.undated.alerts = once.undated.alerts := congrArg Version.alerts same
  have alerts : twice.alerts = once.alerts := undated
  rw [alertsOnce, alertsTwice] at alerts
  exact absurd alerts (by decide)

/-- The same publication, by what it adds the second time. -/
theorem amend_again_adds_notes_again_sample :
    let machine : Machine := {}
    let identifiers : VersionIdentifiers := ⟨"cpih01", "time-series", "1"⟩
    let details : VersionDetails := ⟨"cpih01", "time-series", 1⟩
    let update : Version := {
      state := some .published, alerts := some [{ description := "corrected" }]
      latestChanges := some [{ name := "renamed" }] }
    let options : AmendOptions := { hasDownloads := true }
    let request := machine.amend identifiers update options
    let perform := Site.performExcept fun call => call.method = .upsertEdition
    let middle := (request.run perform Site.sample).2
    machine.handlers = {} ∧ machine.transitions = .builtIn ∧ identifiers.resolve = .ok details ∧
      options.ifMatch = ETag.any ∧ Site.sample.catalog.WellFiled ∧
      Site.sample.arena.IsFree details.resourceKey ∧
      details.Targets update Site.sample.catalog .published ∧
      request.Attempt Site.sample middle ∧
      Write.documentsAt details.slot middle.journal ≠
        Write.documentsAt details.slot Site.sample.journal ∧
      ∃ once twice : Version,
        (request.run Site.perform Site.sample).2.catalog.versions.get? details.slot =
          some once ∧
        (request.run Site.perform middle).2.catalog.versions.get? details.slot = some twice ∧
        twice.undated = (once.addNotes update).undated := by
  intro machine identifiers details update options request perform middle
  have named : identifiers.resolve = .ok details := VersionIdentifiers.resolve_sample
  have free : Site.sample.arena.IsFree details.resourceKey := Arena.isFree_new _
  have targets : details.Targets update Site.sample.catalog .published :=
    VersionDetails.targets_of_state rfl
  have attempt : request.Attempt Site.sample middle := by
    have allowed := Site.answers_performExcept fun call => call.method = .upsertEdition
    obtain ⟨events, run⟩ := exists_runs_run Request.disturbed perform
      (fun call site => allowed site call) request Site.sample
    exact ⟨Site.sample.calendar, events, _, run⟩
  have committed : Write.documentsAt details.slot middle.journal ≠
      Write.documentsAt details.slot Site.sample.journal := by
    intro same
    have one : (Write.documentsAt details.slot middle.journal).length = 1 := by decide +kernel
    rw [same] at one
    cases one
  obtain ⟨once, twice, single, resumed, notesAgain, -⟩ :=
    amend_again_adds_notes_again rfl rfl named rfl Site.wellFiled_sample free targets attempt
      committed middle.calendar
  exact ⟨rfl, rfl, named, rfl, Site.wellFiled_sample, free, targets, attempt, committed, once,
    twice, single, resumed, notesAgain⟩

end Machine

end ReleaseCatalog
