/-
Requests that nothing interrupts. On a site that serves, and where the lock is free, a request comes
down to its steps under the lock: no deadline is missed, and the lock has been visited afterwards.
-/

import ReleaseCatalog.Proofs.Lock.Visit
import ReleaseCatalog.Proofs.Site.Basic

namespace ReleaseCatalog

open Program

variable {α : Type}

namespace Steps

/-- Steps under a lock do not touch the locks. -/
theorem arena_run (steps : Steps α) (site : Site) :
    (steps.run Site.act site).2.arena = site.arena := by
  induction steps generalizing site with
  | done => rfl
  | step action next inductionHypothesis =>
    refine (inductionHypothesis _ _).trans ?_
    cases action <;> rfl

theorem wellFiled_run (steps : Steps α) {site : Site} (filed : site.catalog.WellFiled) :
    (steps.run Site.act site).2.catalog.WellFiled := by
  induction steps generalizing site with
  | done => exact filed
  | step action next inductionHypothesis =>
    refine inductionHypothesis (site.act action).1 ?_
    cases action with
    | store call => exact filed.perform site.now call
    | generate | pause | now => exact filed

end Steps

namespace Machine

variable {machine : Machine} {details : VersionDetails} {update : Version}
  {options : AmendOptions} {site : Site}

/-- On a site that serves no deadline is missed. -/
theorem run_before (expiry : Instant) (steps : Steps α) (site : Site) :
    (Request.before expiry steps).run Site.perform site =
      (some (steps.run Site.act site).1, (steps.run Site.act site).2) := by
  induction steps generalizing site with
  | done result => rfl
  | step action next inductionHypothesis =>
    unfold Request.before
    exact inductionHypothesis (site.act action).1 (site.act action).2

theorem run_lockedInTime (site : Site) :
    (machine.lockedInTime details update options).run Site.perform site =
      (machine.locked details update options).run Site.act site := by
  unfold lockedInTime
  cases machine.deadline with
  | none => exact Request.run_ofSteps Site.perform _ site
  | some deadline =>
    simp only
    rw [Program.run_bind, Program.run_bind, run_before]
    rfl

/-- Looking up the kind of the lock takes one reading of the calendar. -/
theorem run_lockKind (details : VersionDetails) (site : Site) :
    ((Request.ofSteps (lockKind details)).run Site.perform site).2 = site.later := by
  have after : (site.store (.getDatasetType details.datasetId true)).2 = site.later :=
    (site.store_snd _).trans (congrArg Site.later site.make_nil)
  refine Eq.trans ?_ after
  rw [Request.run_ofSteps]
  show (Program.run Site.act (Program.bind
    (.done (site.store (.getDatasetType details.datasetId true)).1) _) _).2 = _
  cases (site.store (.getDatasetType details.datasetId true)).1 <;> rfl

/-- A request that is let through to its lock does what its steps do under it, and gives the lock
back. -/
theorem run_amendVersion_of_through (machine : Machine) (details : VersionDetails)
    (update : Version) (options : AmendOptions)
    (through : (site.arena.request details.resourceKey).2.isThrough
      (site.arena.request details.resourceKey).1 = true) :
    ∃ arena, (machine.amendVersion details update options).run Site.perform site =
      (((machine.locked details update options).run Site.act (site.later.withArena arena)).1,
        ((machine.locked details update options).run Site.act
          (site.later.withArena arena)).2.withArena (site.arena.visited details.resourceKey)) := by
  have lookedUp := run_lockKind details site
  have acquired (kind : LockKind) : (Request.call (.acquire kind details.resourceKey)).run
      Site.perform site.later = site.later.lock details.resourceKey := rfl
  have throughLater : (site.later.arena.request details.resourceKey).2.isThrough
      (site.later.arena.request details.resourceKey).1 = true := through
  let entered := site.arena.request details.resourceKey
  refine ⟨entered.2.claim entered.1, ?_⟩
  unfold amendVersion
  rw [Program.run_bind, lookedUp, Program.run_bind, acquired, Site.lock_of_through throughLater]
  simp only
  rw [Program.run_bind, run_lockedInTime]
  refine Prod.ext rfl ?_
  show Site.unlock _ _ = _
  unfold Site.unlock
  rw [Steps.arena_run, Arena.visited_of_through through]
  rfl

/-- A request for a free lock does what its steps do under it, and gives the lock back. -/
theorem run_amendVersion (machine : Machine) (details : VersionDetails) (update : Version)
    (options : AmendOptions) (free : site.arena.IsFree details.resourceKey) :
    ∃ arena, (machine.amendVersion details update options).run Site.perform site =
      (((machine.locked details update options).run Site.act (site.later.withArena arena)).1,
        ((machine.locked details update options).run Site.act
          (site.later.withArena arena)).2.withArena (site.arena.visited details.resourceKey)) :=
  run_amendVersion_of_through machine details update options free.isThrough

/-- A request that is not let through to its lock fails, and does nothing but look up the kind of
the lock and wait. -/
theorem run_amendVersion_of_not_through (machine : Machine) (details : VersionDetails)
    (update : Version) (options : AmendOptions)
    (refused : ¬(site.arena.request details.resourceKey).2.isThrough
      (site.arena.request details.resourceKey).1 = true) :
    (machine.amendVersion details update options).run Site.perform site =
      (.error ((site.arena.request details.resourceKey).2.timedOut details.resourceKey),
        site.later.withArena (site.arena.visited details.resourceKey)) := by
  have acquired (kind : LockKind) : (Request.call (.acquire kind details.resourceKey)).run
      Site.perform site.later = site.later.lock details.resourceKey := rfl
  have refusedLater : ¬(site.later.arena.request details.resourceKey).2.isThrough
      (site.later.arena.request details.resourceKey).1 = true := refused
  unfold amendVersion
  rw [Program.run_bind, run_lockKind details site, Program.run_bind, acquired,
    Site.lock_of_not_through refusedLater, Arena.visited_of_not_through refused]
  rfl

/-- A request that succeeded went on to the version that its identifiers name. -/
theorem amend_eq_amendVersion {identifiers : VersionIdentifiers}
    (named : identifiers.resolve = .ok details) {version : Version}
    (succeeded : ((machine.amend identifiers update options).run Site.perform site).1 =
      .ok version) :
    machine.amend identifiers update options = machine.amendVersion details update options := by
  unfold amend at succeeded ⊢
  rw [named] at succeeded ⊢
  by_cases unknown : update.type ≠ "" ∧ DatasetType.resolve? update.type = none
  · simp only [if_pos unknown] at succeeded
    cases succeeded
  · simp only [if_neg unknown]

end Machine

end ReleaseCatalog
