/-
Schedules: requests for one version that are carried out one after another, with what others do in
between. On a site that serves, and where the lock of the version is free, each request puts the
version into its slot if it passes, and otherwise leaves the catalog alone; the lock is free again
afterwards. What a request does is the same on all catalogs that agree in the slot of the version
and in which of its parents are there.

A schedule can be drawn up for a trace of what happened at another site: a request is put into it,
as a whole, when it writes the version or fails, and what others do is put into it when they do it.
The site that the schedule leads to then agrees with the real one.
-/

import ReleaseCatalog.Proofs.Concurrency.Stages

namespace ReleaseCatalog

variable {ι : Type}

/-! ### One request after another -/

namespace Amendment

/-- With nobody else there, a request for a free lock writes the version once, if it passes, and
otherwise leaves the catalog alone. The lock is free again afterwards. -/
theorem IsFor.run {amendment : Amendment} {details : VersionDetails}
    (isFor : amendment.IsFor details) {site : Site} (filed : site.catalog.WellFiled)
    (free : site.arena.IsFree details.resourceKey) (now : Timestamp) :
    let last := (amendment.request.run Site.perform (site.withCalendar fun _ => now)).2
    last.catalog.WellFiled ∧ last.arena.IsFree details.resourceKey ∧
      ((∃ stored, amendment.Passes details site.catalog stored ∧
        site.Stores details (Version.stamp now stored (Version.combine stored amendment.update))
          last) ∨
      ((∀ stored, ¬amendment.Passes details site.catalog stored) ∧
        last.catalog = site.catalog ∧ last.journal = site.journal)) := by
  have filedNow : (site.withCalendar fun _ => now).catalog.WellFiled := filed
  have freeNow : (site.withCalendar fun _ => now).arena.IsFree details.resourceKey := free
  obtain ⟨arena, ran⟩ := Machine.run_amendVersion amendment.machine details amendment.update
    amendment.options freeNow
  have decided := Machine.stores_or_leaves_of_amendVersion amendment.machine details
    amendment.update amendment.options filedNow freeNow
  rw [isFor]
  refine ⟨?_, ?_, ?_⟩
  · rw [ran]
    exact Steps.wellFiled_run _ filed
  · rw [ran]
    exact free.visited
  · rcases decided with ⟨stored, reading, passes, stores⟩ | unfit
    · exact .inl ⟨stored, passes, stores.documents, stores.version, stores.parents⟩
    · exact .inr unfit

end Amendment

/-! ### Schedules -/

/-- One item of a schedule: a whole request, or a call that somebody else makes on the store; and
what the calendar shows meanwhile. -/
inductive ScheduleItem (ι : Type) where
  | request (caller : ι) (now : Timestamp)
  | outside (call : StoreCall) (now : Timestamp)

namespace ScheduleItem

/-- Who makes the request, and what the calendar shows. -/
def request? : ScheduleItem ι → Option (ι × Timestamp)
  | request caller now => some (caller, now)
  | outside _ _ => none

/-- The call that somebody else makes, and what the calendar shows. -/
def outsider? : ScheduleItem ι → Option (StoreCall × Timestamp)
  | request _ _ => none
  | outside call now => some (call, now)

/-- The site after an item. -/
def carryOut (calls : ι → Amendment) (site : Site) : ScheduleItem ι → Site
  | request caller now =>
    ((calls caller).request.run Site.perform (site.withCalendar fun _ => now)).2
  | outside call now => ((site.withCalendar fun _ => now).store call).2

/-- The site after a schedule, one item after another. -/
def carryOutAll (calls : ι → Amendment) (site : Site) (schedule : List (ScheduleItem ι)) : Site :=
  schedule.foldl (carryOut calls) site

theorem carryOutAll_append_singleton (calls : ι → Amendment) (site : Site)
    (schedule : List (ScheduleItem ι)) (item : ScheduleItem ι) :
    carryOutAll calls site (schedule ++ [item]) =
      carryOut calls (carryOutAll calls site schedule) item :=
  List.foldl_append

end ScheduleItem

/-! ### Agreement -/

/-- The catalogs agree in all that requests for a version go by. -/
structure Catalog.Agrees (details : VersionDetails) (catalog other : Catalog) : Prop where
  version : catalog.versions.get? details.slot = other.versions.get? details.slot
  dataset : (∃ dataset, catalog.datasets.get? details.datasetId = some dataset) ↔
    ∃ dataset, other.datasets.get? details.datasetId = some dataset
  edition : (∃ edition,
      catalog.editions.get? (details.datasetId, details.edition) = some edition) ↔
    ∃ edition, other.editions.get? (details.datasetId, details.edition) = some edition

namespace Catalog

variable {details : VersionDetails} {catalog other later : Catalog}

theorem Agrees.refl (details : VersionDetails) (catalog : Catalog) :
    catalog.Agrees details catalog :=
  ⟨rfl, Iff.rfl, Iff.rfl⟩

theorem Agrees.hasParents_iff (agrees : catalog.Agrees details other) :
    catalog.HasParents details ↔ other.HasParents details :=
  ⟨fun parents => ⟨agrees.dataset.mp parents.dataset, agrees.edition.mp parents.edition⟩,
    fun parents => ⟨agrees.dataset.mpr parents.dataset, agrees.edition.mpr parents.edition⟩⟩

/-- Catalogs that have the same document in the slot, and the parents, agree. -/
theorem agrees_of_hasParents
    (version : catalog.versions.get? details.slot = other.versions.get? details.slot)
    (parents : catalog.HasParents details) (otherParents : other.HasParents details) :
    catalog.Agrees details other :=
  ⟨version, iff_of_true parents.dataset otherParents.dataset,
    iff_of_true parents.edition otherParents.edition⟩

/-- Catalogs go on to agree while the second one is kept, if the parents are there. -/
theorem Agrees.of_keeps (agrees : catalog.Agrees details other)
    (parents : other.HasParents details) (keeps : other.Keeps details later) :
    catalog.Agrees details later :=
  agrees_of_hasParents (agrees.version.trans keeps.version.symm)
    (agrees.hasParents_iff.mpr parents) (parents.of_keeps keeps)

/-- Which datasets there are after a call does not depend on anything else. -/
theorem exists_dataset_perform_iff (catalog : Catalog) (now : Timestamp) (call : StoreCall)
    (id : String) :
    (∃ dataset, (catalog.perform now call).2.datasets.get? id = some dataset) ↔
      (∃ dataset, catalog.datasets.get? id = some dataset) ∨
        ∃ document, call = .upsertDataset id document := by
  rw [perform_eq_writeAll]
  constructor
  · rintro ⟨dataset, found⟩
    rcases catalog.get?_datasets_writeAll (call.writes now catalog) id with
      ⟨document, member, -⟩ | ⟨-, same⟩
    · cases StoreCall.mayWrite_of_mem_writes member with
      | upsertDataset => exact .inr ⟨_, rfl⟩
      | associate there => exact .inl ⟨_, there⟩
    · exact .inl ⟨dataset, same.symm.trans found⟩
  · rintro (there | ⟨document, rfl⟩)
    · exact exists_dataset_writeAll _ there
    · exact ⟨_, Collection.get?_put_self _ _ _⟩

/-- Which editions there are after a call does not depend on anything else. -/
theorem exists_edition_perform_iff (catalog : Catalog) (now : Timestamp) (call : StoreCall)
    (key : String × String) :
    (∃ edition, (catalog.perform now call).2.editions.get? key = some edition) ↔
      (∃ edition, catalog.editions.get? key = some edition) ∨
        ∃ document, call = .upsertEdition key.1 key.2 document := by
  rw [perform_eq_writeAll]
  constructor
  · rintro ⟨edition, found⟩
    rcases catalog.get?_editions_writeAll (call.writes now catalog) key with
      ⟨document, member, -⟩ | ⟨-, same⟩
    · cases StoreCall.mayWrite_of_mem_writes member with
      | upsertEdition => exact .inr ⟨_, rfl⟩
    · exact .inl ⟨edition, same.symm.trans found⟩
  · rintro (there | ⟨document, rfl⟩)
    · exact exists_edition_writeAll _ there
    · exact ⟨_, Collection.get?_put_self _ _ _⟩

/-- Whoever does not write the slot in one catalog does not write it in another that agrees. -/
theorem Agrees.version_not_mem_writes (agrees : catalog.Agrees details other) {now : Timestamp}
    {call : StoreCall}
    (elsewhere : ∀ document, Write.version details.slot document ∉ call.writes now other)
    (document : Version) : Write.version details.slot document ∉ call.writes now catalog := by
  intro member
  rcases version_mem_writes member with
    ⟨version, rfl⟩ | ⟨path, current, candidate, selector, existing, rfl, own, found, admitted, -⟩
  · exact elsewhere document member
  · rw [← own, agrees.version, own] at found
    refine elsewhere (Version.stamp now existing candidate) ?_
    rw [writes_updateVersion_of_found found, if_pos admitted, own]
    exact List.mem_cons_self

/-- Catalogs that agree go on to agree when the same call is made on both. -/
theorem Agrees.perform (agrees : catalog.Agrees details other) {now : Timestamp}
    {call : StoreCall}
    (elsewhere : ∀ document, Write.version details.slot document ∉ call.writes now other) :
    (catalog.perform now call).2.Agrees details (other.perform now call).2 where
  version := by
    have kept : catalog.Keeps details (catalog.writeAll (call.writes now catalog)) :=
      keeps_writeAll (agrees.version_not_mem_writes elsewhere)
    have otherKept : other.Keeps details (other.writeAll (call.writes now other)) :=
      keeps_writeAll elsewhere
    rw [perform_eq_writeAll, perform_eq_writeAll, kept.version, otherKept.version,
      agrees.version]
  dataset := by
    rw [exists_dataset_perform_iff, exists_dataset_perform_iff, agrees.dataset]
  edition := by
    rw [exists_edition_perform_iff, exists_edition_perform_iff, agrees.edition]

end Catalog

theorem Amendment.passes_iff_of_agrees {amendment : Amendment} {details : VersionDetails}
    {catalog other : Catalog} (agrees : catalog.Agrees details other) {stored : Version} :
    amendment.Passes details catalog stored ↔ amendment.Passes details other stored :=
  ⟨fun passes => ⟨agrees.hasParents_iff.mp passes.parents, agrees.version ▸ passes.version,
      passes.selected, passes.checked⟩,
    fun passes => ⟨agrees.hasParents_iff.mpr passes.parents, agrees.version.symm ▸ passes.version,
      passes.selected, passes.checked⟩⟩

/-! ### Schedules for what happened -/

/-- A schedule for what happened, with the catalog that it left. -/
structure Draft (calls : ι → Amendment) (details : VersionDetails) (start : Site)
    (trace : List (Happening ι)) (catalog : Catalog) (schedule : List (ScheduleItem ι)) :
    Prop where
  filed : (ScheduleItem.carryOutAll calls start schedule).catalog.WellFiled
  free : (ScheduleItem.carryOutAll calls start schedule).arena.IsFree details.resourceKey
  agrees : (ScheduleItem.carryOutAll calls start schedule).catalog.Agrees details catalog
  documents : Write.documentsAt details.slot
      (ScheduleItem.carryOutAll calls start schedule).journal =
    Write.documentsAt details.slot (start.journal ++ trace.flatMap Happening.writes)
  writers : (trace.filterMap (Happening.writer? details.slot)).Sublist
    (schedule.filterMap ScheduleItem.request?)
  outsiders : schedule.filterMap ScheduleItem.outsider? = trace.filterMap Happening.outsider?
  /-- Each document was made of the one that was stored just before. -/
  sources : ∀ caller site writes, Happening.called caller site writes ∈ trace →
    Write.documentsAt details.slot writes = [] ∨
      ∃ stored, site.catalog.versions.get? details.slot = some stored ∧
        Write.documentsAt details.slot writes =
          [Version.stamp site.now stored (Version.combine stored (calls caller).update)]

namespace Draft

variable {calls : ι → Amendment} {details : VersionDetails} {start site : Site}
  {trace : List (Happening ι)} {catalog later : Catalog} {schedule : List (ScheduleItem ι)}
  {caller : ι}

theorem documentsAt_trace_append (slot : VersionKey) (journal : List Write)
    (trace : List (Happening ι)) (happening : Happening ι) :
    Write.documentsAt slot (journal ++ (trace ++ [happening]).flatMap Happening.writes) =
      Write.documentsAt slot (journal ++ trace.flatMap Happening.writes) ++
        Write.documentsAt slot happening.writes := by
  simp [Write.documentsAt_append, List.flatMap_append]

/-- There is nothing to schedule for an empty trace. -/
theorem begun (filed : start.catalog.WellFiled)
    (free : start.arena.IsFree details.resourceKey) :
    Draft calls details start [] start.catalog [] where
  filed := filed
  free := free
  agrees := .refl details start.catalog
  documents := by simp [ScheduleItem.carryOutAll]
  writers := List.Sublist.refl _
  outsiders := rfl
  sources := nofun

/-- That somebody has obtained the lock is not in the schedule. -/
theorem obtained (draft : Draft calls details start trace catalog schedule) :
    Draft calls details start (trace ++ [.obtained caller]) catalog schedule where
  filed := draft.filed
  free := draft.free
  agrees := draft.agrees
  documents := by
    rw [documentsAt_trace_append, draft.documents]
    exact (List.append_nil _).symm
  writers := by simpa [List.filterMap_cons, Happening.writer?] using draft.writers
  outsiders := by simpa [List.filterMap_cons, Happening.outsider?] using draft.outsiders
  sources caller site writes member :=
    draft.sources caller site writes (by simpa using member)

/-- The sources of all writes are known when those of the last call are. -/
theorem sources_append (draft : Draft calls details start trace catalog schedule)
    {writes : List Write}
    (source : Write.documentsAt details.slot writes = [] ∨
      ∃ stored, site.catalog.versions.get? details.slot = some stored ∧
        Write.documentsAt details.slot writes =
          [Version.stamp site.now stored (Version.combine stored (calls caller).update)]) :
    ∀ other otherSite otherWrites,
      Happening.called other otherSite otherWrites ∈ trace ++ [.called caller site writes] →
      Write.documentsAt details.slot otherWrites = [] ∨
        ∃ stored, otherSite.catalog.versions.get? details.slot = some stored ∧
          Write.documentsAt details.slot otherWrites =
            [Version.stamp otherSite.now stored
              (Version.combine stored (calls other).update)] := by
  intro other otherSite otherWrites member
  rcases List.mem_append.mp member with earlier | last
  · exact draft.sources other otherSite otherWrites earlier
  · cases List.mem_singleton.mp last
    exact source

/-- What a request does elsewhere is not in the schedule by itself. -/
theorem elsewhere (draft : Draft calls details start trace catalog schedule)
    {writes : List Write} (nothing : Write.documentsAt details.slot writes = [])
    (agrees : (ScheduleItem.carryOutAll calls start schedule).catalog.Agrees details later) :
    Draft calls details start (trace ++ [.called caller site writes]) later schedule where
  filed := draft.filed
  free := draft.free
  agrees := agrees
  documents := by
    rw [documentsAt_trace_append, draft.documents]
    show _ = _ ++ Write.documentsAt details.slot writes
    rw [nothing, List.append_nil]
  writers := by simpa [List.filterMap_cons, Happening.writer?, nothing] using draft.writers
  outsiders := by simpa [List.filterMap_cons, Happening.outsider?] using draft.outsiders
  sources := draft.sources_append (.inl nothing)

/-- A request that writes the version is put into the schedule. -/
theorem commits (draft : Draft calls details start trace catalog schedule)
    (isFor : (calls caller).IsFor details) {writes : List Write} {stored : Version}
    (same : site.catalog = catalog)
    (commits : (calls caller).machine.Commits details (calls caller).update
      (calls caller).options site.now catalog writes stored) :
    Draft calls details start (trace ++ [.called caller site writes]) (catalog.writeAll writes)
      (schedule ++ [.request caller site.now]) := by
  obtain ⟨filed, free, stores | ⟨unfit, -⟩⟩ := isFor.run draft.filed draft.free site.now
  · obtain ⟨found, passes, stores⟩ := stores
    cases Option.some_inj.mp
      (passes.version.symm.trans (draft.agrees.version.trans commits.passes.version))
    have last := ScheduleItem.carryOutAll_append_singleton calls start schedule
      (.request caller site.now)
    refine ⟨last ▸ filed, last ▸ free, ?_, ?_, ?_, ?_, draft.sources_append (.inr ?_)⟩
    · rw [last]
      refine Catalog.agrees_of_hasParents ?_ stores.parents (commits.passes.parents.writeAll writes)
      rw [Catalog.version_writeAll_of_documentsAt commits.written]
      exact stores.version
    · rw [last, documentsAt_trace_append, ← draft.documents]
      exact stores.documents.trans (congrArg _ commits.written.symm)
    · rw [List.filterMap_append, List.filterMap_append]
      refine draft.writers.append ?_
      simp [Happening.writer?, commits.written, ScheduleItem.request?]
    · simpa [List.filterMap_cons, Happening.outsider?, ScheduleItem.outsider?] using draft.outsiders
    · exact ⟨stored, same ▸ commits.passes.version, commits.written⟩
  · exact absurd ((Amendment.passes_iff_of_agrees draft.agrees).mpr commits.passes) (unfit stored)

/-- A request that fails is put into the schedule. -/
theorem fails (draft : Draft calls details start trace catalog schedule)
    (isFor : (calls caller).IsFor details)
    (unfit : ∀ stored, ¬(calls caller).Passes details catalog stored) :
    Draft calls details start (trace ++ [.called caller site []]) catalog
      (schedule ++ [.request caller site.now]) := by
  obtain ⟨filed, free, ⟨stored, passes, -⟩ | ⟨-, catalog, journal⟩⟩ :=
    isFor.run draft.filed draft.free site.now
  · exact absurd ((Amendment.passes_iff_of_agrees draft.agrees).mp passes) (unfit stored)
  · have last := ScheduleItem.carryOutAll_append_singleton calls start schedule
      (.request caller site.now)
    refine ⟨last ▸ filed, last ▸ free, ?_, ?_, ?_, ?_, draft.sources_append (.inl rfl)⟩
    · rw [last]
      exact catalog ▸ draft.agrees
    · rw [last, documentsAt_trace_append, ← draft.documents]
      exact (congrArg _ journal).trans (List.append_nil _).symm
    · rw [List.filterMap_append, List.filterMap_append]
      refine draft.writers.append ?_
      simp [List.filterMap_cons, Happening.writer?, Write.documentsAt]
    · simpa [List.filterMap_cons, Happening.outsider?, ScheduleItem.outsider?] using draft.outsiders

/-- What somebody else does is put into the schedule. -/
theorem outside (draft : Draft calls details start trace site.catalog schedule)
    {call : StoreCall}
    (nothing : Write.documentsAt details.slot (call.writes site.now site.catalog) = []) :
    Draft calls details start (trace ++ [.outside call site]) (site.store call).2.catalog
      (schedule ++ [.outside call site.now]) := by
  have elsewhere := Write.documentsAt_eq_nil_iff.mp nothing
  have last := ScheduleItem.carryOutAll_append_singleton calls start schedule
    (.outside call site.now)
  refine ⟨?_, ?_, ?_, ?_, ?_, ?_, ?_⟩
  · rw [last]
    exact draft.filed.perform site.now call
  · rw [last]
    exact draft.free
  · rw [last]
    exact draft.agrees.perform elsewhere
  · rw [last, documentsAt_trace_append, ← draft.documents]
    show Write.documentsAt details.slot (_ ++ call.writes _ _) =
      _ ++ Write.documentsAt details.slot (call.writes site.now site.catalog)
    rw [Write.documentsAt_append, nothing]
    exact congrArg _ (Write.documentsAt_eq_nil_iff.mpr
      (draft.agrees.version_not_mem_writes elsewhere))
  · simpa [List.filterMap_cons, Happening.writer?, ScheduleItem.request?] using draft.writers
  · simp [Happening.outsider?, ScheduleItem.outsider?, draft.outsiders]
  · intro caller otherSite writes member
    exact draft.sources caller otherSite writes (by simpa using member)

end Draft

end ReleaseCatalog
