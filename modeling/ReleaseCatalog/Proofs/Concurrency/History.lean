/-
The history of a slot. Any number of requests run at a disturbed site, with all their calls
interleaved. Whatever fails, the document in the slot of a version is only replaced by the requests
for it, one at a time and each once at most: by what the update of the request makes of the document
as it stands, if the rules of the request allow the move. So the document only grows.
-/

import ReleaseCatalog.Proofs.Concurrency.Ledger
import ReleaseCatalog.Proofs.Workflow.Growth

namespace ReleaseCatalog

variable {ι : Type}

/-! ### What becomes of a slot -/

/-- What has become of the content of a slot: these requests have replaced it one after another, by
these documents. -/
inductive Revisions (calls : ι → Amendment) (found : Option Version) :
    List ι → List Version → Option Version → Prop
  | begun : Revisions calls found [] [] found
  | revised {callers : List ι} {documents : List Version} {stored : Version} (caller : ι)
      (now : Timestamp) :
    Revisions calls found callers documents (some stored) →
    TransitionContext.checkMove (calls caller).machine.transitions stored
      (Version.combine stored (calls caller).update) = .ok () →
    Revisions calls found (callers ++ [caller])
      (documents ++ [Version.stamp now stored (Version.combine stored (calls caller).update)])
      (some (Version.stamp now stored (Version.combine stored (calls caller).update)))

namespace Revisions

variable {calls : ι → Amendment} {found content : Option Version} {callers : List ι}
  {documents : List Version}

/-- Nothing is put into an empty slot. -/
theorem of_none (revisions : Revisions calls none callers documents content) :
    documents = [] ∧ content = none := by
  induction revisions with
  | begun => exact ⟨rfl, rfl⟩
  | revised _ _ _ _ inductionHypothesis => cases inductionHypothesis.2

/-- The content of the slot has grown by the updates of those who replaced it. -/
theorem slotGrows (revisions : Revisions calls found callers documents content) :
    Version.SlotGrows (callers.map fun caller => (calls caller).update) found content := by
  induction revisions with
  | begun => exact .refl _
  | revised caller now _ _ inductionHypothesis =>
    rw [List.map_append]
    exact inductionHypothesis.trans (.stored (Version.grows_stamp_combine now _ _))

end Revisions

/-! ### The history in a trace -/

/-- The updates of those who have put a version into the slot, one after another. -/
def Happening.updates (calls : ι → Amendment) (slot : VersionKey) (trace : List (Happening ι)) :
    List Version :=
  (writers slot trace).map fun caller => (calls caller).update

/-- The versions that were put into a slot, one after another. -/
def Happening.documents (slot : VersionKey) (trace : List (Happening ι)) : List Version :=
  Write.documentsAt slot (trace.flatMap writes)

theorem Happening.documents_append (slot : VersionKey) (trace more : List (Happening ι)) :
    documents slot (trace ++ more) = documents slot trace ++ documents slot more := by
  unfold documents
  rw [List.flatMap_append, Write.documentsAt_append]

namespace Ledger

variable [DecidableEq ι] {calls : ι → Amendment} {details : ι → VersionDetails}
  {trace happenings : List (Happening ι)} {system last : System ι (Result Version)}
  {present : LockToken → Option Presence} {bearer : LockToken → Option ι}

/-- Nobody has put two documents into a slot. -/
theorem once (ledger : Ledger calls details trace system present bearer) {slot : VersionKey} :
    (Happening.writers slot trace).Nodup := by
  have orderly := ledger.orderly
  clear ledger
  induction trace using List.reverseRecOn with
  | nil => exact List.nodup_nil
  | append_singleton earlier happening inductionHypothesis =>
    simp only [Happening.entries_append] at orderly
    have before := inductionHypothesis fun caller => (orderly caller).of_append
    rw [Happening.writers_append]
    cases happening with
    | obtained | outside => rwa [show Happening.writers slot [_] = [] from rfl, List.append_nil]
    | called caller site writes =>
      rw [Happening.writers_called]
      by_cases nothing : Write.documentsAt slot writes = []
      · rwa [if_pos nothing, List.append_nil]
      · have now := orderly caller
        rw [Happening.entries_called_self] at now
        obtain ⟨-, fresh, -⟩ := (now.documentsAt_cases slot).resolve_left nothing
        rw [if_neg nothing, ← List.concat_eq_append]
        exact before.concat fun wrote => Happening.mem_writers_iff.mp wrote fresh

/-- At a step nothing is put into a slot, or a request replaces what stands there. -/
theorem replaces_of_step {presentLater : LockToken → Option Presence}
    {bearerLater : LockToken → Option ι}
    (kept : Ledger calls details (trace ++ happenings) last presentLater bearerLater)
    (step : System.DisturbedStep system happenings last) {slot : VersionKey}
    (undisturbed : ∀ call site, Happening.outside call site ∈ happenings →
      Write.documentsAt slot (call.writes site.now site.catalog) = []) :
    Happening.writers slot happenings = [] ∧ Happening.documents slot happenings = [] ∨
      ∃ caller stored document, Happening.writers slot happenings = [caller] ∧
        Happening.documents slot happenings = [document] ∧ slot = (details caller).slot ∧
        (calls caller).machine.Replaces (details caller) (calls caller).update system.site stored
          document := by
  rcases step.happenings_cases with (rfl | ⟨caller, rfl⟩) | ⟨caller, writes, rfl⟩ | ⟨call, rfl⟩
  · exact .inl ⟨rfl, rfl⟩
  · exact .inl ⟨rfl, rfl⟩
  · have orderly := kept.orderly caller
    rw [Happening.entries_append, Happening.entries_called_self] at orderly
    unfold Happening.documents
    rw [Happening.writers_called, List.flatMap_singleton]
    rcases orderly.documentsAt_cases slot with nothing | ⟨here, -, stored, document, replaces, put⟩
    · exact .inl ⟨if_pos nothing, nothing⟩
    · refine .inr ⟨caller, stored, document, if_neg ?_, put, here, replaces⟩
      rw [put]
      exact List.cons_ne_nil _ _
  · refine .inl ⟨rfl, ?_⟩
    unfold Happening.documents
    rw [List.flatMap_singleton]
    exact undisturbed call _ List.mem_cons_self

/-- Whatever happens next, a slot is only replaced by the requests for its version. -/
theorem revisions (ledger : Ledger calls details trace system present bearer)
    {later : List (Happening ι)} (run : System.DisturbedRuns system later last)
    (undisturbed : ∀ call site, Happening.outside call site ∈ later →
      ∀ caller, Write.documentsAt (details caller).slot (call.writes site.now site.catalog) = [])
    {slot : VersionKey}
    (elsewhere : ∀ call site, Happening.outside call site ∈ later →
      Write.documentsAt slot (call.writes site.now site.catalog) = []) :
    Revisions calls (system.site.catalog.versions.get? slot) (Happening.writers slot later)
      (Happening.documents slot later) (last.site.catalog.versions.get? slot) := by
  induction run with
  | begun => exact .begun
  | @step later happenings middle last run step inductionHypothesis =>
    have before := inductionHypothesis
      (fun call site member => undisturbed call site (List.mem_append_left _ member))
      (fun call site member => elsewhere call site (List.mem_append_left _ member))
    obtain ⟨_, _, kept⟩ := ledger.along (run.step step) undisturbed
    rw [← List.append_assoc] at kept
    have content : last.site.catalog.versions.get? slot =
        Write.contentAfter (middle.site.catalog.versions.get? slot)
          (Happening.documents slot happenings) := by
      rw [step.catalog, Catalog.content_writeAll]
      rfl
    rw [Happening.writers_append, Happening.documents_append, content]
    rcases kept.replaces_of_step step
        fun call site member => elsewhere call site (List.mem_append_right _ member) with
      ⟨nobody, nothing⟩ | ⟨caller, stored, document, one, put, rfl, replaces⟩
    · rw [nobody, nothing, List.append_nil, List.append_nil]
      exact before
    · rw [one, put, replaces.made]
      rw [replaces.found] at before
      exact before.revised caller _ replaces.allowed

/-- The requests for one version go on and the document in its slot grows. -/
theorem run {details : VersionDetails}
    (ledger : Ledger calls (fun _ => details) trace system present bearer)
    {later : List (Happening ι)} (run : System.DisturbedRuns system later last)
    (undisturbed : ∀ call site, Happening.outside call site ∈ later →
      Write.documentsAt details.slot (call.writes site.now site.catalog) = []) :
    ∃ presentLater bearerLater,
      Ledger calls (fun _ => details) (trace ++ later) last presentLater bearerLater ∧
        Version.SlotGrows (Happening.updates calls details.slot later)
          (system.site.content details) (last.site.content details) := by
  have apart (call : StoreCall) (site : Site) (member : Happening.outside call site ∈ later)
      (_ : ι) := undisturbed call site member
  obtain ⟨presentLater, bearerLater, kept⟩ := ledger.along run apart
  exact ⟨presentLater, bearerLater, kept, (ledger.revisions run apart undisturbed).slotGrows⟩

end Ledger

/-- A version's history is append-only. Any number of requests for one version run at one disturbed
site, with their calls and all small steps at the gates interleaved in any way, whatever fails, and
with others about who do not write the version. Nobody puts a document into the slot twice. Between
any two moments a slot that is empty stays so, and the document in any other has grown by the updates
of those who put one there meanwhile, in the order in which they did. -/
theorem System.DisturbedRuns.history_is_append_only {ι : Type} [DecidableEq ι]
    {calls : ι → Amendment} {details : VersionDetails}
    (named : ∀ caller other, (calls caller).identifiers.resolve = .ok other → other = details)
    {start middle last : System ι (Result Version)} {earlier later : List (Happening ι)}
    (asked : ∀ caller, start.progress caller = .ready (calls caller).request)
    (filed : start.site.catalog.WellFiled)
    (idle : ∀ key, start.site.arena.gateOf.get? key = none)
    (before : System.DisturbedRuns start earlier middle)
    (run : System.DisturbedRuns middle later last)
    (undisturbed : ∀ call site, Happening.outside call site ∈ earlier ++ later →
      Write.documentsAt details.slot (call.writes site.now site.catalog) = []) :
    (Happening.writers details.slot (earlier ++ later)).Nodup ∧
    (middle.site.content details = none →
      Happening.writers details.slot later = [] ∧ last.site.content details = none) ∧
    ∀ stored, middle.site.content details = some stored →
      ∃ current, last.site.content details = some current ∧
        Version.Grows (Happening.updates calls details.slot later) stored current := by
  obtain ⟨present, bearer, ledger, -⟩ := (Ledger.begun named asked filed idle).run before
    fun call site member => undisturbed call site (List.mem_append_left _ member)
  rw [List.nil_append] at ledger
  obtain ⟨presentLater, bearerLater, kept, grows⟩ := ledger.run run
    fun call site member => undisturbed call site (List.mem_append_right _ member)
  refine ⟨kept.once, ?_, ?_⟩
  · intro vacant
    rw [vacant] at grows
    exact ⟨List.map_eq_nil_iff.mp grows.of_none.1, grows.of_none.2⟩
  · intro stored found
    rw [found] at grows
    exact grows.of_some

/-- The sample is published, and then an alert is added to it. -/
theorem System.DisturbedRuns.history_is_append_only_sample :
    let details : VersionDetails := ⟨"cpih01", "time-series", 1⟩
    let calls : Bool → Amendment
      | true => ⟨{}, ⟨"cpih01", "time-series", "1"⟩, { alerts := some [{}] }, {}⟩
      | false => ⟨{}, ⟨"cpih01", "time-series", "+1"⟩, { state := some .published }, {}⟩
    let start : System Bool (Result Version) :=
      ⟨Site.sample, fun caller => .ready (calls caller).request⟩
    (∀ caller other, (calls caller).identifiers.resolve = .ok other → other = details) ∧
    start.site.catalog.WellFiled ∧ (∀ key, start.site.arena.gateOf.get? key = none) ∧
    ∃ earlier middle later last, System.DisturbedRuns start earlier middle ∧
      System.DisturbedRuns middle later last ∧
      (∀ caller, ∃ result, last.progress caller = .ready (.done result)) ∧
      (Happening.writers details.slot (earlier ++ later)).Nodup ∧
      (middle.site.content details = none →
        Happening.writers details.slot later = [] ∧ last.site.content details = none) ∧
      ∀ stored, middle.site.content details = some stored →
        ∃ current, last.site.content details = some current ∧
          Version.Grows (Happening.updates calls details.slot later) stored current := by
  intro details calls start
  have named (caller : Bool) (other : VersionDetails)
      (resolved : (calls caller).identifiers.resolve = .ok other) : other = details := by
    have same : (calls caller).identifiers.resolve = .ok details := by
      cases caller <;> cbv
    rw [same] at resolved
    exact (Except.ok.inj resolved).symm
  have first : start.progress false = .ready (calls false).request := rfl
  obtain ⟨earlier, alone, before⟩ := System.exists_runs_run Site.answers_perform first
  generalize (calls false).request.run Site.perform _ = published at before
  have second : (start.after false published.2 (.ready (.done published.1))).progress true =
      .ready (calls true).request := rfl
  obtain ⟨later, aloneStill, run⟩ := System.exists_runs_run Site.answers_perform second
  refine ⟨named, Site.wellFiled_sample, fun _ => rfl, earlier, _, later, _, before.disturbed,
    run.disturbed, ?_, System.DisturbedRuns.history_is_append_only named (fun _ => rfl)
      Site.wellFiled_sample (fun _ => rfl) before.disturbed run.disturbed ?_⟩
  · intro caller
    cases caller <;> exact ⟨_, rfl⟩
  · intro call site member
    have outside := List.mem_filterMap.mpr
      ⟨_, member, (rfl : Happening.outsider? _ = some (call, site.now))⟩
    rw [List.filterMap_append, alone, aloneStill] at outside
    cases outside

end ReleaseCatalog
