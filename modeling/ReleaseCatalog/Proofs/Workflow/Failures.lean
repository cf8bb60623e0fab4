/-
What is left of a request that went wrong. Whatever fails, and whenever the deadline expires, the
catalog has seen the first writes of the cascade and no others, and the lock is given back.
-/

import ReleaseCatalog.Proofs.Lock.Visit
import ReleaseCatalog.Proofs.Workflow.Cascade

namespace ReleaseCatalog

namespace Site

variable {site : Site} {key : String}

/-- The plan is followed under the lock of a key: the arena is as before or as after a visit once
the request has come to its end. -/
def FollowsLocked (site : Site) (key : String) (plan : τ → List Write)
    (outcome : Option (Result α)) (last : Site) : Prop :=
  ∃ arena, (site.withArena arena).Follows plan (fun _ _ => True) outcome last ∧
    (outcome.isSome = true → arena = site.arena ∨ arena = site.arena.visited key)

/-- Which arena a site has does not matter for what is written. -/
theorem Follows.withArena {plan : τ → List Write} {holds : τ → α → Prop} {last : Site}
    {outcome : Option (Result α)} (follows : site.Follows plan holds outcome last)
    (arena : Arena) : (site.withArena arena).Follows plan holds outcome (last.withArena arena) := by
  obtain ⟨readings, writes, ⟨calendar, rfl⟩, rest⟩ := follows
  exact ⟨readings, writes, ⟨calendar, rfl⟩, rest⟩

theorem Follows.arena {plan : τ → List Write} {holds : τ → α → Prop} {last : Site}
    {outcome : Option (Result α)} (follows : site.Follows plan holds outcome last) :
    last.arena = site.arena := by
  obtain ⟨readings, writes, made, rest⟩ := follows
  exact made.arena

section Locked

variable [Inhabited τ] {plan : τ → List Write}

/-- A request that has written nothing and is not over follows every plan. -/
theorem followsLocked_none {α : Type} (arena : Arena) (calendar : Nat → Timestamp) :
    site.FollowsLocked key plan (none : Option (Result α))
      ((site.withArena arena).withCalendar calendar) :=
  ⟨arena, .of_withCalendar (follows_none _), nofun⟩

/-- A request that fails before it has written anything follows every plan. -/
theorem followsLocked_error {α : Type} (error : CatalogError) {arena : Arena}
    (calendar : Nat → Timestamp) (visited : arena = site.arena ∨ arena = site.arena.visited key) :
    site.FollowsLocked key plan (some (.error error) : Option (Result α))
      ((site.withArena arena).withCalendar calendar) :=
  ⟨arena, .of_withCalendar (follows_error _ error), fun _ => visited⟩

end Locked

end Site

/-- By its catalog and its journal the other site is this one after writes. -/
structure Site.Wrote (site : Site) (writes : List Write) (after : Site) : Prop where
  catalog : after.catalog = site.catalog.writeAll writes
  journal : after.journal = site.journal ++ writes

theorem Site.Wrote.refl (site : Site) : site.Wrote [] site :=
  ⟨rfl, (List.append_nil _).symm⟩

theorem Site.Made.wrote {site after : Site} {writes : List Write}
    (made : site.Made writes after) : site.Wrote writes after :=
  ⟨made.catalog, made.journal⟩

theorem Site.Wrote.trans {site middle last : Site} {first rest : List Write}
    (earlier : site.Wrote first middle) (later : middle.Wrote rest last) :
    site.Wrote (first ++ rest) last := by
  refine ⟨?_, ?_⟩
  · rw [later.catalog, earlier.catalog, Catalog.writeAll_append]
  · rw [later.journal, earlier.journal, List.append_assoc]

theorem Site.Wrote.unwritten {site middle last : Site} {writes : List Write}
    (wrote : site.Wrote writes middle) (rest : middle.Wrote [] last) : site.Wrote writes last := by
  have both := wrote.trans rest
  rwa [List.append_nil] at both

/-- A call that does not write leaves the catalog alone, whatever it is answered. -/
theorem Request.ensures_call_unwritten {call : Call} {site : Site}
    (unwritten : site.callWrites call = []) :
    Program.Ensures disturbed (fun _ last => site.Wrote [] last) (Request.call call) site := by
  refine ⟨.refl site, nofun, fun answer after answered => ?_⟩
  obtain ⟨writes, begun, catalog, journal⟩ := answered.made
  rw [unwritten, List.prefix_nil] at begun
  exact ⟨begun ▸ catalog, begun ▸ journal⟩

namespace Machine

open Program

variable {machine : Machine} {site : Site}

theorem ensures_lockKind (details : VersionDetails) :
    Ensures Steps.disturbed (fun _ last => site.Made [] last) (lockKind details) site := by
  refine ⟨.refl site, ?_, fun answer after carried => ?_⟩
  · rintro last ⟨writes, begun, rfl⟩
    rw [List.prefix_nil.mp begun, Site.make_nil]
    exact .refl site
  · have unchanged : site.Made [] after := by
      cases carried with
      | served => exact site.made_store _
      | failed => exact .refl site
    match answer with
    | .ok type => exact unchanged
    | .error error => exact unchanged

/-- The deadline ends the steps like any other failure. -/
theorem ensures_lockedInTime [Inhabited τ] {details : VersionDetails} {update : Version}
    {options : AmendOptions} {plan : τ → List Write} {holds : τ → Version → Prop}
    (steps : Ensures Steps.disturbed (site.Follows plan holds)
      (machine.locked details update options) site) :
    Ensures Request.disturbed (site.Follows plan holds)
      (machine.lockedInTime details update options) site := by
  unfold lockedInTime
  cases machine.deadline with
  | none => exact Request.ensures_ofSteps Request.relays_disturbed steps
  | some deadline =>
    refine ⟨site.follows_none, nofun, fun start after answered => ?_⟩
    cases answered with
    | instant =>
      show Ensures _ _ (Program.bind (Request.before (Instant.after start deadline) _) _) site
      refine Ensures.bind ((Request.ensures_before Request.relays_disturbed _ steps).mono
        fun outcome last follows => ?_)
      match outcome with
      | none => exact follows
      | some (some result) => exact follows
      | some none => exact follows.error _

/-- When the steps under the lock are over the lock is given back. -/
theorem ensures_release [Inhabited τ] {details : VersionDetails} {update : Version}
    {options : AmendOptions} {plan : τ → List Write} {arena : Arena}
    {calendar : Nat → Timestamp} (kind : LockKind) {token : LockToken}
    (steps : Ensures Steps.disturbed
      (((site.withArena arena).withCalendar calendar).Follows plan fun _ _ => True)
      (machine.locked details update options) ((site.withArena arena).withCalendar calendar))
    (returned : site.arena.visited details.resourceKey = (arena.release token).2) :
    Ensures Request.disturbed (site.FollowsLocked details.resourceKey plan)
      ((machine.lockedInTime details update options).bind fun result =>
        (Request.call (.release kind token)).bind fun () => .done result)
      ((site.withArena arena).withCalendar calendar) := by
  refine Ensures.bind ((ensures_lockedInTime steps).mono fun outcome last follows => ?_)
  match outcome with
  | none => exact ⟨arena, .of_withCalendar follows, nofun⟩
  | some result =>
    refine ⟨⟨arena, follows.none.of_withCalendar, nofun⟩, nofun, fun answer after answered => ?_⟩
    cases answered with
    | released =>
      have same : last.unlock token = last.withArena (site.arena.visited details.resourceKey) := by
        rw [Site.unlock, follows.arena, returned]
        rfl
      rw [same]
      exact ⟨site.arena.visited details.resourceKey, follows.of_withCalendar.withArena _,
        fun _ => .inr rfl⟩

/-- What the steps under the lock write is all that a request writes, and the lock is given back
when it was taken. -/
theorem ensures_amendVersion [Inhabited τ] {details : VersionDetails} {update : Version}
    {options : AmendOptions} {plan : τ → List Write}
    (steps : ∀ arena calendar, Ensures Steps.disturbed
      (((site.withArena arena).withCalendar calendar).Follows plan fun _ _ => True)
      (machine.locked details update options) ((site.withArena arena).withCalendar calendar)) :
    Ensures Request.disturbed (site.FollowsLocked details.resourceKey plan)
      (machine.amendVersion details update options) site := by
  refine Ensures.bind ((Request.ensures_ofSteps Request.relays_disturbed
    (ensures_lockKind details)).mono ?_)
  rintro outcome last ⟨calendar, rfl⟩
  rw [Site.make_nil]
  match outcome with
  | none => exact Site.followsLocked_none site.arena calendar
  | some kind =>
    refine ⟨Site.followsLocked_none site.arena calendar, nofun, fun answer after answered => ?_⟩
    cases answered with
    | notAcquired _ _ error => exact Site.followsLocked_error error calendar (.inl rfl)
    | acquired =>
      by_cases through : (site.arena.request details.resourceKey).2.isThrough
          (site.arena.request details.resourceKey).1 = true
      · rw [show (site.withCalendar calendar).lock details.resourceKey = _ from
          Site.lock_of_through through]
        exact ensures_release kind (steps _ calendar) (Arena.visited_of_through through)
      · rw [show (site.withCalendar calendar).lock details.resourceKey = _ from
          Site.lock_of_not_through through]
        exact Site.followsLocked_error _ calendar (.inr (Arena.visited_of_not_through through).symm)

end Machine

/-- All writes that a request makes when nothing goes wrong. -/
def VersionIdentifiers.cascade (identifiers : VersionIdentifiers) (update : Version)
    (catalog : Catalog) (times : CascadeTimes) : List Write :=
  match identifiers.resolve with
  | .ok details => details.cascade update catalog times
  | .error _ => []

/-- A cascade begins with the write of the version. -/
theorem VersionDetails.eq_nil_of_prefix_cascade {details : VersionDetails} {update : Version}
    {catalog : Catalog} {times : CascadeTimes} {writes : List Write}
    (begun : writes <+: details.cascade update catalog times)
    (unwritten : ∀ slot document, Write.version slot document ∉ writes) : writes = [] := by
  unfold cascade at begun
  split at begun
  · rcases List.prefix_cons_iff.mp begun with empty | ⟨rest, rfl, -⟩
    · exact empty
    · exact absurd List.mem_cons_self (unwritten _ _)
  · exact List.prefix_nil.mp begun

theorem VersionIdentifiers.eq_nil_of_prefix_cascade {identifiers : VersionIdentifiers}
    {update : Version} {catalog : Catalog} {times : CascadeTimes} {writes : List Write}
    (begun : writes <+: identifiers.cascade update catalog times)
    (unwritten : ∀ slot document, Write.version slot document ∉ writes) : writes = [] := by
  unfold cascade at begun
  split at begun
  · exact VersionDetails.eq_nil_of_prefix_cascade begun unwritten
  · exact List.prefix_nil.mp begun

namespace Machine

open Program

variable {machine : Machine} {site : Site}

/-- A request for a version follows its cascade. -/
theorem follows_amendVersion (standard : machine.handlers = {}) (details : VersionDetails)
    (update : Version) (options : AmendOptions) (filed : site.catalog.WellFiled) :
    Ensures Request.disturbed
      (site.FollowsLocked details.resourceKey (details.cascade update site.catalog))
      (machine.amendVersion details update options) site := by
  refine ensures_amendVersion fun arena calendar => ?_
  have filedThere : ((site.withArena arena).withCalendar calendar).catalog.WellFiled := filed
  exact follows_locked standard details update options filedThere

/-- A request follows the cascade of the version that it names, on whichever arena. -/
theorem ensures_amend (standard : machine.handlers = {}) (identifiers : VersionIdentifiers)
    (update : Version) (options : AmendOptions) (filed : site.catalog.WellFiled) :
    Ensures Request.disturbed
      (fun outcome last => ∃ arena, (site.withArena arena).Follows
        (identifiers.cascade update site.catalog) (fun _ _ => True) outcome last)
      (machine.amend identifiers update options) site := by
  unfold amend VersionIdentifiers.cascade
  cases identifiers.resolve with
  | error error => exact ⟨site.arena, site.follows_error error⟩
  | ok details =>
    by_cases unknown : update.type ≠ "" ∧ DatasetType.resolve? update.type = none
    · simp only [if_pos unknown]
      exact ⟨site.arena, site.follows_error _⟩
    · simp only [if_neg unknown]
      refine (follows_amendVersion standard details update options filed).mono ?_
      rintro outcome last ⟨arena, follows, -⟩
      exact ⟨arena, follows⟩

/-- Whatever fails, and whenever the deadline expires, the catalog has seen the first writes of the
cascade, in their order, and no others; and all of them when the request succeeded. A request that
did not come to write the version has changed nothing. -/
theorem writes_of_amend_prefix_cascade (standard : machine.handlers = {})
    {identifiers : VersionIdentifiers} {update : Version} {options : AmendOptions} {last : Site}
    {events : List (Event Call.Answer Site)} {outcome : Option (Result Version)}
    (filed : site.catalog.WellFiled)
    (run : Runs Request.disturbed (machine.amend identifiers update options) site events outcome
      last) :
    ∃ times writes, writes <+: identifiers.cascade update site.catalog times ∧
      last.catalog = site.catalog.writeAll writes ∧ last.journal = site.journal ++ writes ∧
      (∀ version, outcome = some (.ok version) →
        writes = identifiers.cascade update site.catalog times) ∧
      ((∀ slot document, Write.version slot document ∉ writes) → last.catalog = site.catalog) := by
  obtain ⟨arena, times, writes, made, begun, whole⟩ :=
    run.ends (fun _ _ => id) (ensures_amend standard identifiers update options filed)
  refine ⟨times, writes, begun, made.catalog, made.journal,
    fun version succeeded => (whole version succeeded).1, fun unwritten => ?_⟩
  rw [made.catalog, VersionIdentifiers.eq_nil_of_prefix_cascade begun unwritten]
  rfl

/-- The edition cannot be written while the sample is published: the version stays written. -/
theorem writes_of_amend_prefix_cascade_sample :
    let machine : Machine := {}
    let identifiers : VersionIdentifiers := ⟨"cpih01", "time-series", "1"⟩
    let update : Version := { state := some .published }
    let request := machine.amend identifiers update {}
    let perform := Site.performExcept fun call => call.method = .upsertEdition
    machine.handlers = {} ∧ Site.sample.catalog.WellFiled ∧
      ∃ events, Runs Request.disturbed request Site.sample events
        (some (request.run perform Site.sample).1) (request.run perform Site.sample).2 ∧
      ∃ times writes, writes <+: identifiers.cascade update Site.sample.catalog times ∧
        (request.run perform Site.sample).2.catalog = Site.sample.catalog.writeAll writes ∧
        (request.run perform Site.sample).2.journal = Site.sample.journal ++ writes ∧
        (∀ version, some (request.run perform Site.sample).1 = some (.ok version) →
          writes = identifiers.cascade update Site.sample.catalog times) ∧
        ((∀ slot document, Write.version slot document ∉ writes) →
          (request.run perform Site.sample).2.catalog = Site.sample.catalog) := by
  intro machine identifiers update request perform
  have allowed := Site.answers_performExcept fun call => call.method = .upsertEdition
  obtain ⟨events, run⟩ := exists_runs_run Request.disturbed perform
    (fun call site => allowed site call) request Site.sample
  exact ⟨rfl, Site.wellFiled_sample, events, run,
    writes_of_amend_prefix_cascade rfl Site.wellFiled_sample run⟩

end Machine

end ReleaseCatalog
