/-
The entries of many requests. Any number of requests run at a disturbed site, each for a version of
its own, and many may be for the same one. While the system runs a ledger is kept beside it, of the
tokens under way, who bears them, and where each request stands. One request at a time has a slot in
custody, and nobody else puts a version there; so whatever happens, all requests make their entries
in their turn.
-/

import ReleaseCatalog.Proofs.Concurrency.Disturbance
import ReleaseCatalog.Proofs.Concurrency.Serialisation
import ReleaseCatalog.Proofs.Workflow.CompareAndSwap

namespace ReleaseCatalog

open Function (update)

variable {ι : Type}

/-- What stands in the slot of a version at a site. -/
abbrev Site.content (site : Site) (details : VersionDetails) : Option Version :=
  site.catalog.versions.get? details.slot

/-- After writes there is in a slot what was put there last, or what was there before. -/
theorem Site.content_of_made {site after : Site} {writes : List Write}
    (made : after.catalog = site.catalog.writeAll writes) (details : VersionDetails) :
    after.content details =
      Write.contentAfter (site.content details) (Write.documentsAt details.slot writes) := by
  unfold Site.content
  rw [made, Catalog.content_writeAll]

/-- Versions that have the same slot are the same. -/
theorem VersionDetails.eq_of_slot {details other : VersionDetails}
    (same : details.slot = other.slot) : details = other := by
  obtain ⟨datasetId, edition, number⟩ := details
  obtain ⟨otherId, otherEdition, otherNumber⟩ := other
  cases same
  rfl

/-! ### What everybody has written -/

namespace Happening

variable [DecidableEq ι]

/-- What a request has written when something happened. -/
def entriesBy (caller : ι) : Happening ι → List Entry
  | called other site writes => if other = caller then Entry.ofWrites site writes else []
  | _ => []

/-- What a request has written so far, in its order. -/
def entries (caller : ι) (trace : List (Happening ι)) : List Entry :=
  trace.flatMap (entriesBy caller)

variable {caller other : ι} {trace more : List (Happening ι)} {site : Site} {writes : List Write}

theorem entries_append (caller : ι) (trace more : List (Happening ι)) :
    entries caller (trace ++ more) = entries caller trace ++ entries caller more :=
  List.flatMap_append

theorem entries_called_self (caller : ι) (site : Site) (writes : List Write) :
    entries caller [called caller site writes] = Entry.ofWrites site writes := by
  simp [entries, entriesBy]

theorem entries_called_other (differ : other ≠ caller) (site : Site) (writes : List Write) :
    entries other [called caller site writes] = [] := by
  simp [entries, entriesBy, differ.symm]

/-- The entries of a request tell what it wrote in its calls, and at which site. -/
theorem mem_entries_iff {entry : Entry} :
    entry ∈ entries caller trace ↔
      ∃ writes, .called caller entry.site writes ∈ trace ∧ entry.write ∈ writes := by
  unfold entries
  rw [List.mem_flatMap]
  constructor
  · rintro ⟨happening, member, own⟩
    cases happening with
    | obtained | outside => cases own
    | called other site writes =>
      by_cases same : other = caller
      · simp only [entriesBy, if_pos same] at own
        obtain ⟨change, written, rfl⟩ := List.mem_map.mp own
        exact ⟨writes, same ▸ member, written⟩
      · simp only [entriesBy, if_neg same] at own
        cases own
  · rintro ⟨writes, member, written⟩
    refine ⟨_, member, ?_⟩
    simp only [entriesBy, if_pos]
    exact List.mem_map.mpr ⟨entry.write, written, rfl⟩

/-- Whoever has put a version into a slot has an entry for it. -/
theorem mem_writers_iff {slot : VersionKey} :
    caller ∈ writers slot trace ↔ Entry.documents slot (entries caller trace) ≠ [] := by
  induction trace with
  | nil => simp [writers, entries, Entry.documents, Write.documentsAt]
  | cons happening rest inductionHypothesis =>
    rw [← List.singleton_append, writers_append, List.mem_append, inductionHypothesis,
      entries_append, Entry.documents_append]
    simp only [ne_eq, List.append_eq_nil_iff, not_and_or]
    refine or_congr ?_ Iff.rfl
    cases happening with
    | obtained | outside => simp [writers, writer?, entries, entriesBy, Entry.documents,
        Write.documentsAt]
    | called other site writes =>
      rw [writers_called]
      by_cases same : caller = other
      · subst same
        rw [entries_called_self, Entry.documents_ofWrites]
        by_cases nothing : Write.documentsAt slot writes = [] <;> simp [nothing]
      · rw [entries_called_other same]
        by_cases nothing : Write.documentsAt slot writes = [] <;>
          simp [same, Entry.documents, Write.documentsAt]

/-- Whoever has no entries has written nothing in any call. -/
theorem eq_nil_of_entries (nothing : entries caller trace = [])
    (member : called caller site writes ∈ trace) : writes = [] := by
  refine List.eq_nil_iff_forall_not_mem.mpr fun change written => ?_
  have entered : ⟨site, change⟩ ∈ entries caller trace := mem_entries_iff.mpr ⟨_, member, written⟩
  rw [nothing] at entered
  cases entered

end Happening

/-! ### The ledger -/

/-- What is kept while the system runs: a book of the tokens under way, who bears them, and where
each request stands. -/
structure Ledger [DecidableEq ι] (calls : ι → Amendment) (details : ι → VersionDetails)
    (trace : List (Happening ι)) (system : System ι (Result Version))
    (present : LockToken → Option Presence) (bearer : LockToken → Option ι) : Prop where
  sound : system.site.arena.Sound present
  filed : system.site.catalog.WellFiled
  rests (caller : ι) : (calls caller).Rests (details caller) (Owned present bearer caller)
    (system.site.content (details caller)) (Happening.entries caller trace)
    (system.progress caller)

namespace Ledger

variable [DecidableEq ι] {calls : ι → Amendment} {details : ι → VersionDetails}
  {trace : List (Happening ι)} {system : System ι (Result Version)}
  {present : LockToken → Option Presence} {bearer : LockToken → Option ι} {caller : ι}

/-- The ledger of a system in which nothing has happened yet. -/
theorem begun
    (named : ∀ caller other, (calls caller).identifiers.resolve = .ok other →
      other = details caller)
    (asked : ∀ caller, system.progress caller = .ready (calls caller).request)
    (filed : system.site.catalog.WellFiled)
    (idle : ∀ key, system.site.arena.gateOf.get? key = none) :
    Ledger calls details [] system (fun _ => none) (fun _ => none) where
  sound := Arena.sound_of_idle idle
  filed := filed
  rests caller := by
    rw [asked caller]
    exact Amendment.rests_request (named caller)

/-- All requests have made their entries in their turn. -/
theorem orderly (ledger : Ledger calls details trace system present bearer) (caller : ι) :
    (calls caller).machine.Orderly (details caller) (calls caller).update
      (Happening.entries caller trace) :=
  (ledger.rests caller).orderly

/-- A request that has not put a version into its slot has written nothing. -/
theorem entries_eq_nil (ledger : Ledger calls details trace system present bearer)
    (fresh : caller ∉ Happening.writers (details caller).slot trace) :
    Happening.entries caller trace = [] :=
  (ledger.orderly caller).eq_nil (not_not.mp (mt Happening.mem_writers_iff.mpr fresh))

/-- A request that has not put a version into its slot returns none. -/
theorem eq_error_of_returned (ledger : Ledger calls details trace system present bearer)
    (fresh : caller ∉ Happening.writers (details caller).slot trace) {result : Result Version}
    (returned : system.progress caller = .ready (.done result)) :
    ∃ error, result = .error error := by
  cases result with
  | error error => exact ⟨error, rfl⟩
  | ok version =>
    have rests := ledger.rests caller
    rw [returned] at rests
    exact absurd (Happening.mem_writers_iff.mpr rests.written) fresh

/-- The ledger is kept by others who put no version into the slots of the requests. -/
theorem outside (ledger : Ledger calls details trace system present bearer) {call : StoreCall}
    (nothing : ∀ caller, Write.documentsAt (details caller).slot
      (call.writes system.site.now system.site.catalog) = []) :
    Ledger calls details (trace ++ [.outside call system.site])
      ⟨(system.site.store call).2, system.progress⟩ present bearer := by
  refine ⟨ledger.sound, ledger.filed.perform system.site.now call, fun caller => ?_⟩
  have made : (system.site.store call).2.catalog = system.site.catalog.writeAll
      (call.writes system.site.now system.site.catalog) := Catalog.perform_eq_writeAll _ _ _
  rw [Happening.entries_append, show Happening.entries caller [.outside call system.site] = [] from
    rfl, List.append_nil]
  refine (ledger.rests caller).of_others (fun _ _ owned => owned) fun _ _ _ => ?_
  show (system.site.store call).2.content (details caller) = _
  rw [Site.content_of_made made, nothing caller]
  rfl

/-- One request at a time has a lock. -/
theorem caller_of_holding (ledger : Ledger calls details trace system present bearer) {other : ι}
    {first second : LockToken} {key : String} {gate gateToo : GateId}
    (holds : Owned present bearer caller first ⟨.holding, key, gate⟩)
    (holdsToo : Owned present bearer other second ⟨.holding, key, gateToo⟩) : other = caller := by
  have same : first = second :=
    ledger.sound.exclusive (.inl rfl) (.inl rfl) holds.here holdsToo.here
  rw [same] at holds
  exact Option.some_inj.mp (holdsToo.borne.symm.trans holds.borne)

/-- The ledger is kept when one request has moved and the others stand where they stood. -/
theorem moved (ledger : Ledger calls details trace system present bearer) {site : Site}
    {progress : Progress (Result Version)} {happenings : List (Happening ι)}
    {presentLater : LockToken → Option Presence} {bearerLater : LockToken → Option ι}
    (sound : site.arena.Sound presentLater) (filed : site.catalog.WellFiled)
    (silent : ∀ other, other ≠ caller → Happening.entries other happenings = [])
    (owned : ∀ other, other ≠ caller → ∀ token presence,
      Owned present bearer other token presence →
        Owned presentLater bearerLater other token presence)
    (kept : ∀ other, other ≠ caller → ∀ token gate,
      Owned present bearer other token ⟨.holding, (details other).resourceKey, gate⟩ →
        site.content (details other) = system.site.content (details other))
    (self : (calls caller).Rests (details caller) (Owned presentLater bearerLater caller)
      (site.content (details caller)) (Happening.entries caller (trace ++ happenings)) progress) :
    Ledger calls details (trace ++ happenings) (system.after caller site progress) presentLater
      bearerLater where
  sound := sound
  filed := filed
  rests other := by
    by_cases differ : other = caller
    · rw [differ, System.after_progress_self]
      exact self
    · rw [system.after_progress_other differ, Happening.entries_append, silent other differ,
        List.append_nil]
      exact (ledger.rests other).of_others (owned other differ) (kept other differ)

/-! ### Small steps at the gate -/

/-- The ledger is kept by a small step at a gate. -/
theorem atGate (ledger : Ledger calls details trace system present bearer) {arena : Arena}
    {progress : Progress (Result Version)} {happenings : List (Happening ι)}
    {presentLater : LockToken → Option Presence} {bearerLater : LockToken → Option ι}
    (sound : arena.Sound presentLater)
    (silent : ∀ caller, Happening.entries caller happenings = [])
    (owned : ∀ other, other ≠ caller → ∀ token presence,
      Owned present bearer other token presence →
        Owned presentLater bearerLater other token presence)
    (self : (calls caller).Rests (details caller) (Owned presentLater bearerLater caller)
      (system.site.content (details caller)) (Happening.entries caller trace) progress) :
    Ledger calls details (trace ++ happenings) (system.afterLock caller arena progress) presentLater
      bearerLater := by
  refine ledger.moved sound ledger.filed (fun other _ => silent other) owned
    (fun _ _ _ _ _ => rfl) ?_
  rw [Happening.entries_append, silent, List.append_nil]
  exact self

theorem enter (ledger : Ledger calls details trace system present bearer) {kind : LockKind}
    {key : String} {next : Result LockToken → Request (Result Version)} {id : GateId}
    {arena : Arena} (here : system.progress caller = .ready (.step (.acquire kind key) next))
    (entry : { system.site.arena with nextToken := system.site.arena.nextToken + 1 }.enter key
      system.site.arena.nextToken = (id, arena)) :
    ∃ presentLater bearerLater, Ledger calls details (trace ++ [])
      (system.afterLock caller arena (.visiting ⟨key, id, system.site.arena.nextToken⟩ next))
      presentLater bearerLater := by
  have rests := ledger.rests caller
  rw [here] at rests
  have sound := ledger.sound.enter key
  rw [entry] at sound
  refine ⟨_, update bearer system.site.arena.nextToken (some caller),
    ledger.atGate sound (fun _ => rfl)
      (fun other _ token presence owned => owned.of_issued ledger.sound _ _) ?_⟩
  cases rests with
  | asking _ fresh =>
    exact .visiting kind fresh ⟨Function.update_self .., Function.update_self ..⟩
  | working _ _ _ unlocked => cases unlocked.1

theorem lineUp (ledger : Ledger calls details trace system present bearer)
    {attempt : Arena.Attempt} {next : Result LockToken → Request (Result Version)}
    (here : system.progress caller = .visiting attempt next) :
    ∃ presentLater, Ledger calls details (trace ++ [])
      (system.afterLock caller (system.site.arena.lineUp attempt.gate attempt.token)
        (.waiting attempt next)) presentLater bearer := by
  have rests := ledger.rests caller
  rw [here] at rests
  cases rests with
  | visiting kind fresh visits =>
    refine ⟨_, ledger.atGate (ledger.sound.lineUp visits.here) (fun _ => rfl) ?_ ?_⟩
    · exact fun other differ token presence owned => owned.of_other visits differ _
    · exact .waiting kind fresh ⟨Function.update_self .., visits.borne⟩

theorem giveUp (ledger : Ledger calls details trace system present bearer)
    {attempt : Arena.Attempt} {next : Result LockToken → Request (Result Version)}
    (here : system.progress caller = .waiting attempt next) (error : CatalogError) :
    ∃ presentLater, Ledger calls details (trace ++ [])
      (system.afterLock caller (system.site.arena.withdraw attempt)
        (.ready (next (.error error)))) presentLater bearer := by
  have rests := ledger.rests caller
  rw [here] at rests
  cases rests with
  | waiting kind fresh waits =>
    refine ⟨_, ledger.atGate (ledger.sound.leave waits.here) (fun _ => rfl) ?_ ?_⟩
    · exact fun other differ token presence owned => owned.of_other waits differ _
    · rw [fresh]
      exact .returned _ (Amendment.conforms_error error)

/-- Whoever was let through takes the slot into custody. -/
theorem register (ledger : Ledger calls details trace system present bearer)
    {attempt : Arena.Attempt} {next : Result LockToken → Request (Result Version)}
    (here : system.progress caller = .waiting attempt next)
    (through : system.site.arena.isThrough attempt = true) :
    ∃ presentLater, Ledger calls details (trace ++ [.obtained caller])
      (system.afterLock caller (system.site.arena.claim attempt)
        (.ready (next (.ok attempt.token)))) presentLater bearer := by
  have rests := ledger.rests caller
  rw [here] at rests
  cases rests with
  | waiting kind fresh waits =>
    refine ⟨_, ledger.atGate (ledger.sound.register waits.here (eq_of_beq through))
      (fun _ => rfl) ?_ ?_⟩
    · exact fun other differ token presence owned => owned.of_other waits differ _
    · rw [fresh]
      exact Amendment.rests_of_inCustody ⟨Function.update_self .., waits.borne⟩ rfl
        (Machine.unlocked_lockedInTime _ _ _ _) Machine.ensures_lockedInTime_inCustody

theorem strike (ledger : Ledger calls details trace system present bearer) {kind : LockKind}
    {token : LockToken} {next : Unit → Request (Result Version)} {holding : Holding}
    (here : system.progress caller = .ready (.step (.release kind token) next))
    (held : system.site.arena.held.get? token = some holding) :
    ∃ presentLater, Ledger calls details (trace ++ [])
      (system.afterLock caller (system.site.arena.strike token)
        (.struck ⟨holding.key, holding.gate, token⟩ next)) presentLater bearer := by
  have rests := ledger.rests caller
  rw [here] at rests
  cases rests with
  | working _ _ _ unlocked => cases unlocked.1
  | releasing _ result holds conforms =>
    have registered := (ledger.sound.has holds.here).registered rfl
    cases Option.some_inj.mp (held.symm.trans registered)
    refine ⟨_, ledger.atGate (ledger.sound.strike holds.here) (fun _ => rfl) ?_ ?_⟩
    · exact fun other differ token presence owned => owned.of_other holds differ _
    · exact .struck result ⟨Function.update_self .., holds.borne⟩ conforms

theorem refused (ledger : Ledger calls details trace system present bearer) {kind : LockKind}
    {token : LockToken} {next : Unit → Request (Result Version)}
    (here : system.progress caller = .ready (.step (.release kind token) next)) :
    Ledger calls details (trace ++ []) (system.after caller system.site (.ready (next ()))) present
      bearer := by
  have rests := ledger.rests caller
  rw [here] at rests
  cases rests with
  | working _ _ _ unlocked => cases unlocked.1
  | releasing _ result holds conforms =>
    exact ledger.atGate ledger.sound (fun _ => rfl) (fun _ _ _ _ owned => owned)
      (.returned result conforms)

theorem passOn (ledger : Ledger calls details trace system present bearer)
    {attempt : Arena.Attempt} {next : Unit → Request (Result Version)}
    (here : system.progress caller = .struck attempt next) :
    ∃ presentLater, Ledger calls details (trace ++ [])
      (system.afterLock caller (system.site.arena.passOn attempt.gate)
        (.passing attempt.key next)) presentLater bearer := by
  have rests := ledger.rests caller
  rw [here] at rests
  cases rests with
  | struck result stays conforms =>
    refine ⟨_, ledger.atGate (ledger.sound.passOn stays.here) (fun _ => rfl) ?_
      (.passing result conforms)⟩
    exact fun other differ token presence owned => owned.of_other stays differ _

theorem prune (ledger : Ledger calls details trace system present bearer) {key : String}
    {next : Unit → Request (Result Version)}
    (here : system.progress caller = .passing key next) :
    Ledger calls details (trace ++ [])
      (system.afterLock caller (system.site.arena.prune key) (.ready (next ()))) present
      bearer := by
  have rests := ledger.rests caller
  rw [here] at rests
  cases rests with
  | passing result conforms =>
    exact ledger.atGate (ledger.sound.prune _) (fun _ => rfl) (fun _ _ _ _ owned => owned)
      (.returned result conforms)

theorem notAcquired (ledger : Ledger calls details trace system present bearer) {kind : LockKind}
    {key : String} {next : Result LockToken → Request (Result Version)}
    (here : system.progress caller = .ready (.step (.acquire kind key) next))
    (error : CatalogError) :
    Ledger calls details (trace ++ [])
      (system.after caller system.site (.ready (next (.error error)))) present bearer := by
  have rests := ledger.rests caller
  rw [here] at rests
  cases rests with
  | working _ _ _ unlocked => cases unlocked.1
  | asking kind fresh =>
    refine ledger.atGate ledger.sound (fun _ => rfl) (fun _ _ _ _ owned => owned) ?_
    rw [fresh]
    exact .returned _ (Amendment.conforms_error error)

/-! ### Calls -/

/-- Whatever a request calls, the ledger is kept. -/
theorem call (ledger : Ledger calls details trace system present bearer) {call : Call}
    {next : call.Answer → Request (Result Version)} {answer : call.Answer} {site : Site}
    {writes : List Write} (here : system.progress caller = .ready (.step call next))
    (plain : call.isForLock = false) (answered : system.site.Answers call answer site)
    (recorded : site.journal = system.site.journal ++ writes) :
    Ledger calls details (trace ++ [.called caller system.site writes])
      (system.after caller site (.ready (next answer))) present bearer := by
  obtain ⟨planned, begun, made, journal⟩ := answered.made
  cases List.append_cancel_left (recorded.symm.trans journal)
  have sound : site.arena.Sound present := answered.arena plain ▸ ledger.sound
  have filed := answered.wellFiled ledger.filed
  have silent (other : ι) (differ : other ≠ caller) :
      Happening.entries other [.called caller system.site writes] = [] :=
    Happening.entries_called_other differ _ _
  have content := Site.content_of_made made
  have rests := ledger.rests caller
  rw [here] at rests
  cases rests with
  | asking | releasing => cases plain
  | looking fresh =>
    have nothing : writes = [] := List.prefix_nil.mp begun
    subst nothing
    refine ledger.moved sound filed silent (fun _ _ _ _ owned => owned)
      (fun other _ _ _ _ => content _) ?_
    rw [Happening.entries_append, fresh, Happening.entries_called_self]
    exact .asking _ rfl
  | @working kind gate token found _ next holds shown unlocked ensures =>
    have goesOn := ensures.2.2 answer _
      ⟨system.site, site, ⟨ledger.filed, shown⟩, answered, writes, recorded, rfl⟩
    have orderly := (goesOn.mono fun _ _ => Machine.Conforms.orderly).here
    refine ledger.moved sound filed silent (fun _ _ _ _ owned => owned) ?_ ?_
    · -- Another one that has a lock has not that of this version, so its slot is another one.
      intro other differ token gate holdsToo
      rw [content]
      rcases orderly.documentsAt_cases (details other).slot with nothing | ⟨same, -⟩
      · rw [nothing]
        rfl
      · rw [VersionDetails.eq_of_slot same] at holdsToo
        exact absurd (ledger.caller_of_holding holds holdsToo) differ
    · rw [Happening.entries_append, Happening.entries_called_self]
      refine Amendment.rests_of_inCustody holds ?_ (unlocked.2 answer trivial) goesOn
      rw [content, shown, Entry.documents_append, Entry.documents_ofWrites,
        Write.contentAfter_append]

/-! ### Runs -/

/-- Whatever happens next, the ledger is kept. -/
theorem step (ledger : Ledger calls details trace system present bearer)
    {happenings : List (Happening ι)} {last : System ι (Result Version)}
    (step : System.DisturbedStep system happenings last)
    (undisturbed : ∀ call site, Happening.outside call site ∈ happenings →
      ∀ caller, Write.documentsAt (details caller).slot (call.writes site.now site.catalog) = []) :
    ∃ presentLater bearerLater,
      Ledger calls details (trace ++ happenings) last presentLater bearerLater := by
  cases step with
  | notAcquired error here => exact ⟨present, bearer, ledger.notAcquired here error⟩
  | step step =>
    cases step with
    | call here plain answered recorded =>
      exact ⟨present, bearer, ledger.call here plain answered recorded⟩
    | enter here entry => exact ledger.enter here entry
    | @enterToHold caller _ _ _ _ here =>
      have rests := ledger.rests caller
      rw [here] at rests
      cases rests with
      | working _ _ _ unlocked => cases unlocked.1
    | lineUp here =>
      obtain ⟨presentLater, kept⟩ := ledger.lineUp here
      exact ⟨presentLater, bearer, kept⟩
    | register here through =>
      obtain ⟨presentLater, kept⟩ := ledger.register here through
      exact ⟨presentLater, bearer, kept⟩
    | giveUp here =>
      obtain ⟨presentLater, kept⟩ := ledger.giveUp here _
      exact ⟨presentLater, bearer, kept⟩
    | strike here held =>
      obtain ⟨presentLater, kept⟩ := ledger.strike here held
      exact ⟨presentLater, bearer, kept⟩
    | refused here => exact ⟨present, bearer, ledger.refused here⟩
    | passOn here =>
      obtain ⟨presentLater, kept⟩ := ledger.passOn here
      exact ⟨presentLater, bearer, kept⟩
    | prune here => exact ⟨present, bearer, ledger.prune here⟩
    | outside call =>
      exact ⟨present, bearer, ledger.outside (undisturbed call _ List.mem_cons_self)⟩

/-- The ledger is kept along every run. -/
theorem along (ledger : Ledger calls details trace system present bearer)
    {later : List (Happening ι)} {last : System ι (Result Version)}
    (run : System.DisturbedRuns system later last)
    (undisturbed : ∀ call site, Happening.outside call site ∈ later →
      ∀ caller, Write.documentsAt (details caller).slot (call.writes site.now site.catalog) = []) :
    ∃ presentLater bearerLater,
      Ledger calls details (trace ++ later) last presentLater bearerLater := by
  induction run with
  | begun =>
    rw [List.append_nil]
    exact ⟨present, bearer, ledger⟩
  | step _ step inductionHypothesis =>
    obtain ⟨presentMeanwhile, bearerMeanwhile, earlier⟩ :=
      inductionHypothesis fun call site member =>
        undisturbed call site (List.mem_append_left _ member)
    rw [← List.append_assoc]
    exact earlier.step step fun call site member =>
      undisturbed call site (List.mem_append_right _ member)

end Ledger

/-! ### From the beginning -/

/-- The version that a request names, or any one if it names none. -/
def Amendment.subject (amendment : Amendment) : VersionDetails :=
  amendment.identifiers.resolve.toOption.getD ⟨"", "", 0⟩

theorem Amendment.subject_eq {amendment : Amendment} {details : VersionDetails}
    (named : amendment.identifiers.resolve = .ok details) : amendment.subject = details := by
  unfold subject
  rw [named]
  rfl

namespace System

/-- The requests of the system have not begun, and nobody has ever come to a lock of the site. -/
structure Begins (start : System ι (Result Version)) (calls : ι → Amendment) : Prop where
  asked (caller : ι) : start.progress caller = .ready (calls caller).request
  filed : start.site.catalog.WellFiled
  idle (key : String) : start.site.arena.gateOf.get? key = none

/-- A ledger is kept from the beginning. -/
theorem DisturbedRuns.exists_ledger [DecidableEq ι] {calls : ι → Amendment}
    {start last : System ι (Result Version)} {trace : List (Happening ι)}
    (begins : start.Begins calls) (run : DisturbedRuns start trace last)
    (undisturbed : ∀ call site, .outside call site ∈ trace → ∀ slot,
      Write.documentsAt slot (call.writes site.now site.catalog) = []) :
    ∃ present bearer, Ledger calls (fun caller => (calls caller).subject) trace last present
      bearer := by
  have named (caller : ι) (other : VersionDetails)
      (resolved : (calls caller).identifiers.resolve = .ok other) :
      other = (calls caller).subject := (Amendment.subject_eq resolved).symm
  exact (Ledger.begun named begins.asked begins.filed begins.idle).along run
    fun call site member _ => undisturbed call site member _

end System

end ReleaseCatalog
