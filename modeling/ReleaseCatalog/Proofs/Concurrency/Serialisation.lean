/-
Requests for one version are serialised. However their calls are interleaved, the documents in the
slot of the version are those that come of carrying out the requests one after another, in the order
in which they obtained the lock.

While the system runs an account is kept beside it: a book of the tokens under way, who bears them,
where each request stands, and a schedule for what has happened so far. Whoever has obtained the
lock and not decided yet is the only one, because nobody else can have the lock; so the schedule has
the requests in the order of the lock.
-/

import Mathlib
import ReleaseCatalog.Proofs.Concurrency.Schedule

namespace ReleaseCatalog

open Function (update)

variable {ι : Type}

/-! ### The account -/

/-- Who has obtained the lock, one after another. -/
def Happening.obtainers (trace : List (Happening ι)) : List ι :=
  trace.filterMap obtainer?

/-- Whose requests are scheduled, one after another. -/
def ScheduleItem.callers (schedule : List (ScheduleItem ι)) : List ι :=
  (schedule.filterMap request?).map Prod.fst

theorem Happening.obtainers_append_singleton (trace : List (Happening ι))
    (happening : Happening ι) :
    obtainers (trace ++ [happening]) = obtainers trace ++ happening.obtainer?.toList := by
  unfold obtainers
  rw [List.filterMap_append]
  cases happening <;> rfl

theorem ScheduleItem.callers_append_singleton (schedule : List (ScheduleItem ι))
    (item : ScheduleItem ι) :
    callers (schedule ++ [item]) = callers schedule ++ (item.request?.map Prod.fst).toList := by
  unfold callers
  rw [List.filterMap_append, List.map_append]
  cases item <;> rfl

/-- The caller bears the token, which is present as told. -/
structure Owned (present : LockToken → Option Presence) (bearer : LockToken → Option ι) (caller : ι)
    (token : LockToken) (presence : Presence) : Prop where
  here : present token = some presence
  borne : bearer token = some caller

/-- Whoever owns a token does so still when another one's token has moved. -/
theorem Owned.of_other {present : LockToken → Option Presence} {bearer : LockToken → Option ι}
    {caller other : ι} {token moved : LockToken} {presence before : Presence}
    (owned : Owned present bearer other token presence)
    (another : Owned present bearer caller moved before) (differ : other ≠ caller)
    (next : Option Presence) :
    Owned (update present moved next) bearer other token presence := by
  refine ⟨?_, owned.borne⟩
  rw [Function.update_of_ne, owned.here]
  rintro rfl
  exact differ (Option.some_inj.mp (owned.borne.symm.trans another.borne))

/-- Whoever owns a token does so still when the next one has been given out. -/
theorem Owned.of_issued {arena : Arena} {present : LockToken → Option Presence}
    {bearer : LockToken → Option ι} {other : ι} {token : LockToken} {presence : Presence}
    (owned : Owned present bearer other token presence) (sound : arena.Sound present)
    (next : Option Presence) (caller : Option ι) :
    Owned (update present arena.nextToken next) (update bearer arena.nextToken caller) other token
      presence := by
  have another : token ≠ arena.nextToken := Nat.ne_of_lt (sound.issued owned.here)
  exact ⟨(Function.update_of_ne another _ _).trans owned.here,
    (Function.update_of_ne another _ _).trans owned.borne⟩

variable [DecidableEq ι]

/-- What is kept while the system runs: a book of the tokens under way, who bears them, and the
schedule so far. -/
structure Account (calls : ι → Amendment) (details : VersionDetails) (start : Site)
    (trace : List (Happening ι)) (system : System ι (Result Version))
    (present : LockToken → Option Presence) (bearer : LockToken → Option ι)
    (schedule : List (ScheduleItem ι)) : Prop where
  sound : system.site.arena.Sound present
  filed : system.site.catalog.WellFiled
  draft : Draft calls details start trace system.site.catalog schedule
  once : (Happening.obtainers trace).Nodup
  /-- At most one has obtained the lock and is not scheduled. -/
  ordered : ∃ rest : Option ι,
    Happening.obtainers trace = ScheduleItem.callers schedule ++ rest.toList
  stands (caller : ι) : (calls caller).Stands details (Owned present bearer caller)
    system.site.catalog
    (Stage.of (Happening.obtainers trace) (ScheduleItem.callers schedule) caller)
    (system.progress caller)

namespace Account

variable {calls : ι → Amendment} {details : VersionDetails} {start : Site}
  {trace : List (Happening ι)} {system : System ι (Result Version)}
  {present : LockToken → Option Presence} {bearer : LockToken → Option ι}
  {schedule : List (ScheduleItem ι)} {caller other : ι}

/-- Whoever is undecided is the last to have obtained the lock, and the only one not scheduled. -/
theorem obtainers_of_undecided
    (account : Account calls details start trace system present bearer schedule)
    (undecided : Stage.of (Happening.obtainers trace) (ScheduleItem.callers schedule) caller =
      .undecided) :
    Happening.obtainers trace = ScheduleItem.callers schedule ++ [caller] := by
  obtain ⟨rest, ordered⟩ := account.ordered
  obtain ⟨unscheduled, obtained⟩ := Stage.of_eq_undecided_iff.mp undecided
  rw [ordered, List.mem_append] at obtained
  cases rest with
  | none => exact absurd (obtained.resolve_left unscheduled) List.not_mem_nil
  | some last =>
    cases List.mem_singleton.mp (obtained.resolve_left unscheduled)
    exact ordered

theorem undecided_unique
    (account : Account calls details start trace system present bearer schedule)
    (undecided : Stage.of (Happening.obtainers trace) (ScheduleItem.callers schedule) caller =
      .undecided)
    (too : Stage.of (Happening.obtainers trace) (ScheduleItem.callers schedule) other =
      .undecided) : other = caller := by
  have same := (account.obtainers_of_undecided too).symm.trans
    (account.obtainers_of_undecided undecided)
  exact List.singleton_inj.mp (List.append_cancel_left same)

/-- When nobody is undecided, all who have obtained the lock are scheduled. -/
theorem obtainers_eq_callers
    (account : Account calls details start trace system present bearer schedule)
    (nobody : ∀ other, Stage.of (Happening.obtainers trace) (ScheduleItem.callers schedule) other ≠
      .undecided) : Happening.obtainers trace = ScheduleItem.callers schedule := by
  obtain ⟨rest, ordered⟩ := account.ordered
  cases rest with
  | none => simpa using ordered
  | some last =>
    have once := account.once
    rw [ordered, Option.toList_some, List.nodup_append] at once
    refine absurd (Stage.of_eq_undecided_iff.mpr ⟨?_, ?_⟩) (nobody last)
    · exact fun member => once.2.2 last member last List.mem_cons_self rfl
    · rw [ordered]
      exact List.mem_append_right _ List.mem_cons_self

/-- When everybody who has obtained the lock has returned, they are all scheduled. -/
theorem callers_eq_of_returned
    (account : Account calls details start trace system present bearer schedule)
    (returned : ∀ caller ∈ Happening.obtainers trace,
      ∃ result, system.progress caller = .ready (.done result)) :
    ScheduleItem.callers schedule = Happening.obtainers trace := by
  refine (account.obtainers_eq_callers fun other undecided => ?_).symm
  obtain ⟨result, done⟩ := returned other (Stage.of_eq_undecided_iff.mp undecided).2
  have stands := account.stands other
  rw [undecided, done] at stands
  cases stands

/-- The account is kept when one request has moved and the others stand where they stood. -/
theorem moved (account : Account calls details start trace system present bearer schedule)
    {site : Site} {progress : Progress (Result Version)} {happenings : List (Happening ι)}
    {presentLater : LockToken → Option Presence} {bearerLater : LockToken → Option ι}
    {scheduleLater : List (ScheduleItem ι)}
    (sound : site.arena.Sound presentLater) (filed : site.catalog.WellFiled)
    (draft : Draft calls details start (trace ++ happenings) site.catalog scheduleLater)
    (once : (Happening.obtainers (trace ++ happenings)).Nodup)
    (ordered : ∃ rest : Option ι, Happening.obtainers (trace ++ happenings) =
      ScheduleItem.callers scheduleLater ++ rest.toList)
    (parents : system.site.catalog.HasParents details → site.catalog.HasParents details)
    (others : ∀ other, other ≠ caller →
      Stage.of (Happening.obtainers (trace ++ happenings)) (ScheduleItem.callers scheduleLater)
          other =
        Stage.of (Happening.obtainers trace) (ScheduleItem.callers schedule) other ∧
      (Stage.of (Happening.obtainers trace) (ScheduleItem.callers schedule) other = .undecided →
        system.site.catalog.Keeps details site.catalog) ∧
      ∀ token presence, Owned present bearer other token presence →
        Owned presentLater bearerLater other token presence)
    (self : (calls caller).Stands details (Owned presentLater bearerLater caller) site.catalog
      (Stage.of (Happening.obtainers (trace ++ happenings))
        (ScheduleItem.callers scheduleLater) caller) progress) :
    Account calls details start (trace ++ happenings) (system.after caller site progress)
      presentLater bearerLater scheduleLater where
  sound := sound
  filed := filed
  draft := draft
  once := once
  ordered := ordered
  stands other := by
    by_cases differ : other = caller
    · subst differ
      simpa using self
    · obtain ⟨stage, keeps, owned⟩ := others other differ
      have there : (system.after caller site progress).progress other = system.progress other :=
        Function.update_of_ne differ _ _
      rw [stage, there]
      exact (account.stands other).of_keeps keeps parents owned

/-- The account is kept when one request has moved, but not come to another stage, and the catalog
still has what the others go by. -/
theorem quiet (account : Account calls details start trace system present bearer schedule)
    {site : Site} {progress : Progress (Result Version)} {happenings : List (Happening ι)}
    {presentLater : LockToken → Option Presence} {bearerLater : LockToken → Option ι}
    (sound : site.arena.Sound presentLater) (filed : site.catalog.WellFiled)
    (draft : Draft calls details start (trace ++ happenings) site.catalog schedule)
    (silent : Happening.obtainers (trace ++ happenings) = Happening.obtainers trace)
    (keeps : system.site.catalog.Keeps details site.catalog)
    (owned : ∀ other, other ≠ caller → ∀ token presence,
      Owned present bearer other token presence →
        Owned presentLater bearerLater other token presence)
    (self : (calls caller).Stands details (Owned presentLater bearerLater caller) site.catalog
      (Stage.of (Happening.obtainers trace) (ScheduleItem.callers schedule) caller) progress) :
    Account calls details start (trace ++ happenings) (system.after caller site progress)
      presentLater bearerLater schedule := by
  refine account.moved sound filed draft ?_ ?_ (fun parents => parents.of_keeps keeps) ?_ ?_
  · rw [silent]
    exact account.once
  · rw [silent]
    exact account.ordered
  · intro other differ
    rw [silent]
    exact ⟨rfl, fun _ => keeps, owned other differ⟩
  · rw [silent]
    exact self

/-! ### Small steps at the gate -/

/-- The account is kept by a small step at a gate. -/
theorem atGate (account : Account calls details start trace system present bearer schedule)
    {arena : Arena} {progress : Progress (Result Version)}
    {presentLater : LockToken → Option Presence} {bearerLater : LockToken → Option ι}
    (sound : arena.Sound presentLater)
    (owned : ∀ other, other ≠ caller → ∀ token presence,
      Owned present bearer other token presence →
        Owned presentLater bearerLater other token presence)
    (self : (calls caller).Stands details (Owned presentLater bearerLater caller)
      system.site.catalog
      (Stage.of (Happening.obtainers trace) (ScheduleItem.callers schedule) caller) progress) :
    Account calls details start (trace ++ []) (system.afterLock caller arena progress)
      presentLater bearerLater schedule := by
  have silent : Happening.obtainers (trace ++ []) = Happening.obtainers trace := by
    rw [List.append_nil]
  have draft := account.draft
  rw [← List.append_nil trace] at draft
  exact account.quiet sound account.filed draft silent (.refl details _) owned self

theorem enter (account : Account calls details start trace system present bearer schedule)
    {kind : LockKind} {key : String} {next : Result LockToken → Request (Result Version)}
    {id : GateId} {arena : Arena}
    (here : system.progress caller = .ready (.step (.acquire kind key) next))
    (entry : { system.site.arena with nextToken := system.site.arena.nextToken + 1 }.enter key
      system.site.arena.nextToken = (id, arena)) :
    ∃ presentLater bearerLater, Account calls details start (trace ++ [])
      (system.afterLock caller arena (.visiting ⟨key, id, system.site.arena.nextToken⟩ next))
      presentLater bearerLater schedule := by
  have stands := account.stands caller
  rw [here] at stands
  have sound := account.sound.enter key
  rw [entry] at sound
  refine ⟨_, update bearer system.site.arena.nextToken (some caller), account.atGate sound
    (fun other _ token presence owned => owned.of_issued account.sound _ _) ?_⟩
  generalize Stage.of _ _ caller = stage at stands ⊢
  cases stands with
  | asking _ isFor =>
    exact .visiting kind isFor ⟨Function.update_self .., Function.update_self ..⟩

theorem lineUp (account : Account calls details start trace system present bearer schedule)
    {attempt : Arena.Attempt} {next : Result LockToken → Request (Result Version)}
    (here : system.progress caller = .visiting attempt next) :
    ∃ presentLater, Account calls details start (trace ++ [])
      (system.afterLock caller (system.site.arena.lineUp attempt.gate attempt.token)
        (.waiting attempt next)) presentLater bearer schedule := by
  have stands := account.stands caller
  rw [here] at stands
  generalize staged : Stage.of _ _ caller = stage at stands
  cases stands with
  | visiting kind isFor visits =>
    refine ⟨_, account.atGate (account.sound.lineUp visits.here)
      (fun other differ token presence owned => owned.of_other visits differ _) ?_⟩
    rw [staged]
    exact .waiting kind isFor ⟨Function.update_self .., visits.borne⟩

theorem giveUp (account : Account calls details start trace system present bearer schedule)
    {attempt : Arena.Attempt} {next : Result LockToken → Request (Result Version)}
    (here : system.progress caller = .waiting attempt next) (error : CatalogError) :
    ∃ presentLater, Account calls details start (trace ++ [])
      (system.afterLock caller (system.site.arena.withdraw attempt)
        (.ready (next (.error error)))) presentLater bearer schedule := by
  have stands := account.stands caller
  rw [here] at stands
  generalize staged : Stage.of _ _ caller = stage at stands
  cases stands with
  | waiting kind isFor waits =>
    refine ⟨_, account.atGate (account.sound.leave waits.here)
      (fun other differ token presence owned => owned.of_other waits differ _) ?_⟩
    rw [staged]
    exact .rejected error

theorem strike (account : Account calls details start trace system present bearer schedule)
    {kind : LockKind} {token : LockToken} {next : Unit → Request (Result Version)}
    {holding : Holding} (here : system.progress caller = .ready (.step (.release kind token) next))
    (held : system.site.arena.held.get? token = some holding) :
    ∃ presentLater, Account calls details start (trace ++ [])
      (system.afterLock caller (system.site.arena.strike token)
        (.struck ⟨holding.key, holding.gate, token⟩ next)) presentLater bearer schedule := by
  have stands := account.stands caller
  rw [here] at stands
  generalize staged : Stage.of _ _ caller = stage at stands
  cases stands with
  | releasing _ result holds =>
    have registered := (account.sound.has holds.here).registered rfl
    cases Option.some_inj.mp (held.symm.trans registered)
    refine ⟨_, account.atGate (account.sound.strike holds.here)
      (fun other differ token presence owned => owned.of_other holds differ _) ?_⟩
    rw [staged]
    exact .struck result ⟨Function.update_self .., holds.borne⟩

/-- A lock that a request gives back was held. -/
theorem not_refused (account : Account calls details start trace system present bearer schedule)
    {kind : LockKind} {token : LockToken} {next : Unit → Request (Result Version)}
    (here : system.progress caller = .ready (.step (.release kind token) next)) :
    system.site.arena.held.get? token ≠ none := by
  have stands := account.stands caller
  rw [here] at stands
  generalize Stage.of _ _ caller = stage at stands
  cases stands with
  | releasing _ result holds =>
    rw [(account.sound.has holds.here).registered rfl]
    exact Option.some_ne_none _

theorem passOn (account : Account calls details start trace system present bearer schedule)
    {attempt : Arena.Attempt} {next : Unit → Request (Result Version)}
    (here : system.progress caller = .struck attempt next) :
    ∃ presentLater, Account calls details start (trace ++ [])
      (system.afterLock caller (system.site.arena.passOn attempt.gate)
        (.passing attempt.key next)) presentLater bearer schedule := by
  have stands := account.stands caller
  rw [here] at stands
  generalize staged : Stage.of _ _ caller = stage at stands
  cases stands with
  | struck result stays =>
    refine ⟨_, account.atGate (account.sound.passOn stays.here)
      (fun other differ token presence owned => owned.of_other stays differ _) ?_⟩
    rw [staged]
    exact .passing result

theorem prune (account : Account calls details start trace system present bearer schedule)
    {key : String} {next : Unit → Request (Result Version)}
    (here : system.progress caller = .passing key next) :
    Account calls details start (trace ++ [])
      (system.afterLock caller (system.site.arena.prune key) (.ready (next ())))
      present bearer schedule := by
  have stands := account.stands caller
  rw [here] at stands
  generalize staged : Stage.of _ _ caller = stage at stands
  cases stands with
  | passing result =>
    refine account.atGate (account.sound.prune _) (fun _ _ _ _ owned => owned) ?_
    rw [staged]
    exact .returned result

/-- When somebody has been let through, nobody else has the lock and is undecided. -/
theorem nobody_undecided
    (account : Account calls details start trace system present bearer schedule)
    {token : LockToken} {gate : GateId}
    (waits : Owned present bearer caller token ⟨.waiting, details.resourceKey, gate⟩)
    (through : (system.site.arena.gate gate).owner = some token) (differ : other ≠ caller) :
    Stage.of (Happening.obtainers trace) (ScheduleItem.callers schedule) other ≠ .undecided := by
  intro undecided
  have stands := account.stands other
  rw [undecided] at stands
  generalize system.progress other = progress at stands
  cases stands with
  | undecided _ _ holds _ =>
    -- Once registered, both would hold the lock.
    have registered := account.sound.register waits.here through
    have holdsStill := holds.of_other waits differ (some ⟨.holding, details.resourceKey, gate⟩)
    have same := registered.exclusive (.inl rfl) (.inl rfl) (Function.update_self ..)
      holdsStill.here
    exact differ (Option.some_inj.mp (holds.borne.symm.trans (same ▸ waits.borne)))

theorem register (account : Account calls details start trace system present bearer schedule)
    {attempt : Arena.Attempt} {next : Result LockToken → Request (Result Version)}
    (here : system.progress caller = .waiting attempt next)
    (through : system.site.arena.isThrough attempt = true) :
    ∃ presentLater, Account calls details start (trace ++ [.obtained caller])
      (system.afterLock caller (system.site.arena.claim attempt)
        (.ready (next (.ok attempt.token)))) presentLater bearer schedule := by
  have stands := account.stands caller
  rw [here] at stands
  generalize staged : Stage.of _ _ caller = stage at stands
  cases stands with
  | waiting kind isFor waits =>
    obtain ⟨unscheduled, fresh⟩ := Stage.of_eq_before_iff.mp staged
    have owner := eq_of_beq through
    have obtainers : Happening.obtainers (trace ++ [.obtained caller]) =
        Happening.obtainers trace ++ [caller] := Happening.obtainers_append_singleton _ _
    have scheduled : Happening.obtainers trace = ScheduleItem.callers schedule := by
      refine account.obtainers_eq_callers fun other => ?_
      by_cases same : other = caller
      · rw [same, staged]
        exact Stage.noConfusion
      · exact account.nobody_undecided waits owner same
    refine ⟨_, account.moved (account.sound.register waits.here owner) account.filed
      account.draft.obtained ?_ ⟨some caller, ?_⟩ id ?_ ?_⟩
    · rw [obtainers, ← List.concat_eq_append]
      exact .concat fresh account.once
    · rw [obtainers, scheduled]
      rfl
    · intro other differ
      rw [obtainers]
      exact ⟨Stage.of_obtained_other differ,
        fun undecided => absurd undecided (account.nobody_undecided waits owner differ),
        fun token presence owned => owned.of_other waits differ _⟩
    · rw [obtainers, Stage.of_eq_undecided_iff.mpr
        ⟨unscheduled, List.mem_append_right _ List.mem_cons_self⟩]
      exact Amendment.stands_of_undecided isFor ⟨Function.update_self .., waits.borne⟩
        (Machine.undecided_locked _ details _ _ _)

/-! ### Calls -/

/-- The account is kept when a request decides. -/
theorem decide (account : Account calls details start trace system present bearer schedule)
    (undecided : Stage.of (Happening.obtainers trace) (ScheduleItem.callers schedule) caller =
      .undecided)
    {site : Site} {writes : List Write} {progress : Progress (Result Version)}
    (arena : site.arena = system.site.arena) (filed : site.catalog.WellFiled)
    (parents : system.site.catalog.HasParents details → site.catalog.HasParents details)
    (draft : Draft calls details start (trace ++ [.called caller system.site writes])
      site.catalog (schedule ++ [.request caller system.site.now]))
    (self : (calls caller).Stands details (Owned present bearer caller) site.catalog .decided
      progress) :
    Account calls details start (trace ++ [.called caller system.site writes])
      (system.after caller site progress) present bearer
      (schedule ++ [.request caller system.site.now]) := by
  have last := account.obtainers_of_undecided undecided
  have callers : ScheduleItem.callers (schedule ++ [.request caller system.site.now]) =
      ScheduleItem.callers schedule ++ [caller] := ScheduleItem.callers_append_singleton _ _
  have silent : Happening.obtainers (trace ++ [.called caller system.site writes]) =
      Happening.obtainers trace :=
    (Happening.obtainers_append_singleton _ _).trans (List.append_nil _)
  refine account.moved (arena ▸ account.sound) filed draft ?_ ⟨none, ?_⟩ parents ?_ ?_
  · rw [silent]
    exact account.once
  · rw [silent, callers, last]
    simp
  · intro other differ
    rw [silent, callers]
    exact ⟨Stage.of_scheduled_other differ,
      fun too => absurd (account.undecided_unique undecided too) differ, fun _ _ owned => owned⟩
  · rw [silent, callers, Stage.of_eq_decided_iff.mpr
      (List.mem_append_right _ List.mem_cons_self)]
    exact self

/-- The account is kept by a call that writes elsewhere, or nothing. -/
theorem goOn (account : Account calls details start trace system present bearer schedule)
    {site : Site} {writes : List Write} {progress : Progress (Result Version)}
    (arena : site.arena = system.site.arena)
    (made : site.catalog = system.site.catalog.writeAll writes)
    (filed : site.catalog.WellFiled)
    (elsewhere : ∀ document, Write.version details.slot document ∉ writes)
    (parents : writes = [] ∨ system.site.catalog.HasParents details)
    (self : (calls caller).Stands details (Owned present bearer caller) site.catalog
      (Stage.of (Happening.obtainers trace) (ScheduleItem.callers schedule) caller) progress) :
    Account calls details start (trace ++ [.called caller system.site writes])
      (system.after caller site progress) present bearer schedule := by
  have keeps : system.site.catalog.Keeps details site.catalog := by
    rw [made]
    exact Catalog.keeps_writeAll elsewhere
  have silent : Happening.obtainers (trace ++ [.called caller system.site writes]) =
      Happening.obtainers trace :=
    (Happening.obtainers_append_singleton _ _).trans (List.append_nil _)
  refine account.quiet (arena ▸ account.sound) filed
    (account.draft.elsewhere (Write.documentsAt_eq_nil_iff.mpr elsewhere) ?_) silent keeps
    (fun _ _ _ _ owned => owned) self
  rcases parents with rfl | parents
  · rw [made]
    exact account.draft.agrees
  · exact account.draft.agrees.of_keeps parents keeps

/-- The account is kept by a call under the lock of somebody who is undecided. -/
theorem callUndecided
    (account : Account calls details start trace system present bearer schedule)
    (staged : Stage.of (Happening.obtainers trace) (ScheduleItem.callers schedule) caller =
      .undecided) (isFor : (calls caller).IsFor details) (kind : LockKind) {gate : GateId}
    {token : LockToken} (holds : Owned present bearer caller token
      ⟨.holding, details.resourceKey, gate⟩)
    {call : StoreCall} {next : call.Answer → Steps (Result Version)}
    (undecided : (calls caller).machine.Undecided details (calls caller).update
      (calls caller).options (.step (.store call) next) system.site.catalog) :
    ∃ scheduleLater, Account calls details start
      (trace ++ [.called caller system.site (call.writes system.site.now system.site.catalog)])
      (system.after caller (system.site.store call).2
        (.ready (Amendment.inside kind token (next (system.site.store call).1))))
      present bearer scheduleLater := by
  have made : (system.site.store call).2.catalog = system.site.catalog.writeAll
      (call.writes system.site.now system.site.catalog) := Catalog.perform_eq_writeAll _ _ _
  have filed : (system.site.store call).2.catalog.WellFiled :=
    account.filed.perform system.site.now call
  rcases undecided system.site.now system.site.catalog (.refl details _) account.filed with
    ⟨stored, commits, afterwards⟩ | ⟨nothing, goesOn⟩
  · have parents := commits.passes.parents.writeAll
      (call.writes system.site.now system.site.catalog)
    rw [← made] at parents
    refine ⟨_, account.decide staged rfl filed (fun _ => parents) ?_ ?_⟩
    · rw [made]
      exact account.draft.commits isFor rfl commits
    · exact Amendment.stands_of_decided holds (.inr ⟨afterwards, parents⟩)
  · rw [nothing] at made
    rw [nothing]
    rcases goesOn with undecidedStill | fails
    · refine ⟨schedule, account.goOn rfl made filed (fun _ => List.not_mem_nil) (.inl rfl) ?_⟩
      rw [staged, made]
      exact Amendment.stands_of_undecided isFor holds undecidedStill
    · refine ⟨_, account.decide staged rfl filed (fun parents => ?_) ?_ ?_⟩
      · rw [made]
        exact parents
      · rw [made]
        exact account.draft.fails isFor fails.unfit
      · exact Amendment.stands_of_decided holds (.inl fails.failed)

theorem call (account : Account calls details start trace system present bearer schedule)
    {call : Call} {next : call.Answer → Request (Result Version)} {answer : call.Answer}
    {site : Site} {writes : List Write}
    (here : system.progress caller = .ready (.step call next)) (plain : call.isForLock = false)
    (served : system.site.Serves call answer site)
    (recorded : site.journal = system.site.journal ++ writes) :
    ∃ scheduleLater, Account calls details start (trace ++ [.called caller system.site writes])
      (system.after caller site (.ready (next answer))) present bearer scheduleLater := by
  have stands := account.stands caller
  rw [here] at stands
  generalize staged : Stage.of _ _ caller = stage at stands
  cases stands with
  | asking | releasing => cases plain
  | looking isFor =>
    obtain ⟨made, journal, arena⟩ := served.made
    cases List.append_cancel_left (recorded.symm.trans journal)
    refine ⟨schedule, account.goOn arena made (served.wellFiled account.filed)
      (fun _ => List.not_mem_nil) (.inl rfl) ?_⟩
    rw [staged]
    exact .asking _ isFor
  | undecided kind isFor holds undecided =>
    obtain ⟨-, journal, -⟩ := served.made
    cases List.append_cancel_left (recorded.symm.trans journal)
    cases served with
    | served => exact account.callUndecided staged isFor kind holds undecided
  | decided kind holds forParents parents =>
    obtain ⟨made, journal, arena⟩ := served.made
    cases List.append_cancel_left (recorded.symm.trans journal)
    refine ⟨schedule, account.goOn arena made (served.wellFiled account.filed)
      (fun _ => forParents.1.not_version_mem_writes) (.inr parents) ?_⟩
    rw [staged, made]
    exact Amendment.stands_of_decided holds (.inr ⟨forParents.2 answer trivial, parents.writeAll _⟩)

/-- The account is kept by others who do not write the version. -/
theorem outside (account : Account calls details start trace system present bearer schedule)
    {call : StoreCall}
    (nothing : Write.documentsAt details.slot
      (call.writes system.site.now system.site.catalog) = []) :
    Account calls details start (trace ++ [.outside call system.site])
      ⟨(system.site.store call).2, system.progress⟩ present bearer
      (schedule ++ [.outside call system.site.now]) := by
  have keeps : system.site.catalog.Keeps details (system.site.store call).2.catalog := by
    show system.site.catalog.Keeps details (system.site.catalog.perform system.site.now call).2
    rw [Catalog.perform_eq_writeAll]
    exact Catalog.keeps_writeAll (Write.documentsAt_eq_nil_iff.mp nothing)
  have silent : Happening.obtainers (trace ++ [.outside call system.site]) =
      Happening.obtainers trace :=
    (Happening.obtainers_append_singleton _ _).trans (List.append_nil _)
  have callers : ScheduleItem.callers (schedule ++ [.outside call system.site.now]) =
      ScheduleItem.callers schedule :=
    (ScheduleItem.callers_append_singleton _ _).trans (List.append_nil _)
  refine ⟨account.sound, account.filed.perform system.site.now call,
    account.draft.outside nothing, ?_, ?_, fun caller => ?_⟩
  · rw [silent]
    exact account.once
  · rw [silent, callers]
    exact account.ordered
  · rw [silent, callers]
    exact (account.stands caller).of_keeps (fun _ => keeps) (fun parents => parents.of_keeps keeps)
      fun _ _ owned => owned

/-! ### Runs -/

/-- Whatever happens next, the account goes on. -/
theorem step (account : Account calls details start trace system present bearer schedule)
    {happenings : List (Happening ι)} {last : System ι (Result Version)}
    (step : System.Step Site.Serves system happenings last)
    (undisturbed : ∀ call site, Happening.outside call site ∈ happenings →
      Write.documentsAt details.slot (call.writes site.now site.catalog) = []) :
    ∃ presentLater bearerLater scheduleLater, Account calls details start (trace ++ happenings)
      last presentLater bearerLater scheduleLater := by
  cases step with
  | call here plain served recorded =>
    obtain ⟨scheduleLater, kept⟩ := account.call here plain served recorded
    exact ⟨present, bearer, scheduleLater, kept⟩
  | enter here entry =>
    obtain ⟨presentLater, bearerLater, kept⟩ := account.enter here entry
    exact ⟨presentLater, bearerLater, schedule, kept⟩
  | @enterToHold caller _ _ _ _ here =>
    have stands := account.stands caller
    rw [here] at stands
    generalize Stage.of _ _ caller = stage at stands
    cases stands
  | lineUp here =>
    obtain ⟨presentLater, kept⟩ := account.lineUp here
    exact ⟨presentLater, bearer, schedule, kept⟩
  | register here through =>
    obtain ⟨presentLater, kept⟩ := account.register here through
    exact ⟨presentLater, bearer, schedule, kept⟩
  | giveUp here =>
    obtain ⟨presentLater, kept⟩ := account.giveUp here _
    exact ⟨presentLater, bearer, schedule, kept⟩
  | strike here held =>
    obtain ⟨presentLater, kept⟩ := account.strike here held
    exact ⟨presentLater, bearer, schedule, kept⟩
  | refused here refused => exact absurd refused (account.not_refused here)
  | passOn here =>
    obtain ⟨presentLater, kept⟩ := account.passOn here
    exact ⟨presentLater, bearer, schedule, kept⟩
  | prune here => exact ⟨present, bearer, schedule, account.prune here⟩
  | outside call =>
    exact ⟨present, bearer, _, account.outside (undisturbed call _ List.mem_cons_self)⟩

/-- The account of a system in which nothing has happened yet. -/
theorem begun (named : ∀ caller, (calls caller).identifiers.resolve = .ok details)
    (unhurried : ∀ caller, (calls caller).machine.deadline = none)
    (asked : ∀ caller, system.progress caller = .ready (calls caller).request)
    (filed : system.site.catalog.WellFiled)
    (idle : ∀ key, system.site.arena.gateOf.get? key = none) :
    Account calls details system.site [] system (fun _ => none) (fun _ => none) [] where
  sound := Arena.sound_of_idle idle
  filed := filed
  draft := .begun filed fun id opened => by simp [idle] at opened
  once := List.nodup_nil
  ordered := ⟨none, rfl⟩
  stands caller := by
    have fresh : Stage.of (Happening.obtainers []) (ScheduleItem.callers []) caller = .before :=
      Stage.of_eq_before_iff.mpr ⟨List.not_mem_nil, List.not_mem_nil⟩
    rw [asked caller, fresh]
    exact Amendment.stands_request (named caller) (unhurried caller)

theorem run {start : System ι (Result Version)}
    (account : Account calls details start.site [] start present bearer [])
    (run : System.Runs Site.Serves start trace system)
    (undisturbed : ∀ call site, Happening.outside call site ∈ trace →
      Write.documentsAt details.slot (call.writes site.now site.catalog) = []) :
    ∃ presentLater bearerLater schedule, Account calls details start.site trace system
      presentLater bearerLater schedule := by
  induction run with
  | begun => exact ⟨present, bearer, [], account⟩
  | step _ step inductionHypothesis =>
    obtain ⟨presentLater, bearerLater, schedule, earlier⟩ :=
      inductionHypothesis fun call site member =>
        undisturbed call site (List.mem_append_left _ member)
    exact earlier.step step fun call site member =>
      undisturbed call site (List.mem_append_right _ member)

end Account

/-- Requests for one version are serialised. Any number of them run at one site, with their calls
and all small steps at the gates interleaved in any way, and with others about who do not write the
version. Then each document that was put into the slot of the version was made of the one that was
stored just before, by the update of the request that put it there; and all documents in the slot
are those that come of carrying out requests one after another, in the order in which they obtained
the lock and with what the calendar showed at the writes. In any moment these are the first ones of
those that have obtained the lock, and all of them when they have returned. -/
theorem System.Runs.amendments_are_serialised {ι : Type} [DecidableEq ι]
    {calls : ι → Amendment} {details : VersionDetails}
    (named : ∀ caller, (calls caller).identifiers.resolve = .ok details)
    (unhurried : ∀ caller, (calls caller).machine.deadline = none)
    {start last : System ι (Result Version)} {trace : List (Happening ι)}
    (asked : ∀ caller, start.progress caller = .ready (calls caller).request)
    (filed : start.site.catalog.WellFiled)
    (idle : ∀ key, start.site.arena.gateOf.get? key = none)
    (run : System.Runs Site.Serves start trace last)
    (undisturbed : ∀ call site, Happening.outside call site ∈ trace →
      Write.documentsAt details.slot (call.writes site.now site.catalog) = []) :
    (∀ caller site writes, Happening.called caller site writes ∈ trace →
      Write.documentsAt details.slot writes = [] ∨
        ∃ stored, site.catalog.versions.get? details.slot = some stored ∧
          Write.documentsAt details.slot writes =
            [Version.stamp site.now stored (Version.combine stored (calls caller).update)]) ∧
    (Happening.obtainers trace).Nodup ∧
    ∃ schedule : List (ScheduleItem ι),
      ScheduleItem.callers schedule <+: Happening.obtainers trace ∧
      ((∀ caller ∈ Happening.obtainers trace,
          ∃ result, last.progress caller = .ready (.done result)) →
        ScheduleItem.callers schedule = Happening.obtainers trace) ∧
      (trace.filterMap (Happening.writer? details.slot)).Sublist
        (schedule.filterMap ScheduleItem.request?) ∧
      schedule.filterMap ScheduleItem.outsider? = trace.filterMap Happening.outsider? ∧
      Write.documentsAt details.slot
          (ScheduleItem.carryOutAll calls start.site schedule).journal =
        Write.documentsAt details.slot last.site.journal := by
  obtain ⟨present, bearer, schedule, account⟩ :=
    (Account.begun named unhurried asked filed idle).run run undisturbed
  refine ⟨account.draft.sources, account.once, schedule, ?_, account.callers_eq_of_returned,
    account.draft.writers, account.draft.outsiders, ?_⟩
  · obtain ⟨rest, ordered⟩ := account.ordered
    exact ⟨rest.toList, ordered.symm⟩
  · rw [run.journal]
    exact account.draft.documents

theorem System.Runs.amendments_are_serialised_sample :
    let details : VersionDetails := ⟨"cpih01", "time-series", 1⟩
    let calls : Bool → Amendment
      | true => ⟨{}, ⟨"cpih01", "time-series", "1"⟩, { alerts := some [{}] }, {}⟩
      | false => ⟨{}, ⟨"cpih01", "time-series", "+1"⟩, { state := some .published }, {}⟩
    let start : System Bool (Result Version) :=
      ⟨Site.sample, fun caller => .ready (calls caller).request⟩
    (∀ caller, (calls caller).identifiers.resolve = .ok details) ∧
    (∀ caller, (calls caller).machine.deadline = none) ∧
    start.site.catalog.WellFiled ∧ (∀ key, start.site.arena.gateOf.get? key = none) ∧
    ∃ trace last, System.Runs Site.Serves start trace last ∧
      (∀ caller, ∃ result, last.progress caller = .ready (.done result)) ∧
      (Happening.obtainers trace).Nodup ∧
      ∃ schedule : List (ScheduleItem Bool),
        ScheduleItem.callers schedule = Happening.obtainers trace ∧
        schedule.filterMap ScheduleItem.outsider? = [] ∧
        Write.documentsAt details.slot
            (ScheduleItem.carryOutAll calls Site.sample schedule).journal =
          Write.documentsAt details.slot last.site.journal := by
  intro details calls start
  have named (caller : Bool) : (calls caller).identifiers.resolve = .ok details := by
    cases caller <;> cbv
  have unhurried (caller : Bool) : (calls caller).machine.deadline = none := by
    cases caller <;> rfl
  have served (site : Site) (call : Call) :
      site.Serves call (site.perform call).1 (site.perform call).2 := .served call
  -- One request has looked up the type of the dataset when the other one comes, and goes on when
  -- that one is done.
  have looks : start.progress true = .ready ((calls true).looking details) := by
    rcases Amendment.request_eq (named true) (unhurried true) with ⟨error, rejected⟩ | ⟨-, looks⟩
    · have accepted : (calls true).request =
          (calls true).machine.amendVersion details (calls true).update (calls true).options := by
        show Machine.amend _ _ _ _ = _
        unfold Machine.amend
        rw [named true]
        rfl
      rw [accepted] at rejected
      cases rejected
    · exact congrArg Progress.ready looks
  have looked := System.Runs.begun.step
    (.call looks rfl (served _ _) (List.append_nil Site.sample.journal).symm)
  generalize Site.perform _ start.site = answer at looked
  have second : (start.after true answer.2 (.ready ((calls true).asking details
      (Amendment.kindFor answer.1)))).progress false = .ready (calls false).request := rfl
  obtain ⟨between, alone, other⟩ := System.exists_runs_run served second
  generalize (calls false).request.run Site.perform _ = returned at other
  have third : ((start.after true answer.2 (.ready ((calls true).asking details
      (Amendment.kindFor answer.1)))).after false returned.2
      (.ready (.done returned.1))).progress true =
        .ready ((calls true).asking details (Amendment.kindFor answer.1)) := rfl
  obtain ⟨later, aloneStill, rest⟩ := System.exists_runs_run served third
  have run := (looked.append other).append rest
  have nobody : ((([] ++ [Happening.called true Site.sample []]) ++ between) ++ later).filterMap
      Happening.outsider? = [] := by
    rw [List.filterMap_append, List.filterMap_append, alone, aloneStill]
    rfl
  obtain ⟨-, once, schedule, -, callers, -, outsiders, documents⟩ :=
    run.amendments_are_serialised named unhurried (fun _ => rfl) Site.wellFiled_sample
      (fun _ => rfl) fun call site member => by
        have outside := List.mem_filterMap.mpr
          ⟨_, member, (rfl : Happening.outsider? _ = some (call, site.now))⟩
        rw [nobody] at outside
        cases outside
  refine ⟨named, unhurried, Site.wellFiled_sample, fun _ => rfl, _, _, run, ?_, once, schedule, ?_,
    outsiders.trans nobody, documents⟩
  · intro caller
    cases caller <;> exact ⟨_, rfl⟩
  · refine callers fun caller _ => ?_
    cases caller <;> exact ⟨_, rfl⟩

end ReleaseCatalog
