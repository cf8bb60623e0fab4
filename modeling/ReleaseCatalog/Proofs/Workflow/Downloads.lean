/-
When downloads are asked for. A generator hears of a version once at most, and only when everything
that belongs to its move has been written. When a request has come so far, it asks exactly if
downloads are called for, and from there on it can fail only because the generator does, or because
there is none; what was written stays.
-/

import ReleaseCatalog.Proofs.Workflow.Failures
import ReleaseCatalog.Proofs.Workflow.Settlement

namespace ReleaseCatalog

open Program (Ensures Event Runs)

/-! ### Inquiries -/

/-- A generator was asked for downloads. The answer is absent when it was given up. -/
structure Inquiry where
  generator : Generator
  request : GenerateRequest
  answer : Option (Result Unit)
  /-- The site as it was then. -/
  site : Site

/-- The inquiry that was made with a call, if it is one. -/
def Inquiry.ofEvent? : Event Call.Answer Site → Option Inquiry
  | ⟨.act (.generate generator request), answer, site, _⟩ =>
    some ⟨generator, request, some answer, site⟩
  | ⟨.actBefore _ (.generate generator request), answer, site, _⟩ =>
    some ⟨generator, request, answer, site⟩
  | _ => none

/-- The call does not ask a generator. -/
def Call.IsQuiet : Call → Prop
  | .act action | .actBefore _ action => action.IsQuiet
  | _ => True

theorem Inquiry.ofEvent?_eq_none {event : Event Call.Answer Site} (quiet : event.call.IsQuiet) :
    ofEvent? event = none := by
  obtain ⟨call, answer, before, after⟩ := event
  cases call with
  | act action | actBefore _ action =>
    cases action with
    | generate => exact quiet.elim
    | store | pause | now => rfl
  | instant | acquire | hold | release => rfl

namespace Request

/-- The inquiries among the calls of a request. -/
def inquiries (events : List (Event Call.Answer Site)) : List Inquiry :=
  events.filterMap Inquiry.ofEvent?

variable {site last : Site} {events : List (Event Call.Answer Site)}

theorem inquiries_append (first rest : List (Event Call.Answer Site)) :
    inquiries (first ++ rest) = inquiries first ++ inquiries rest :=
  List.filterMap_append

theorem inquiries_of_quiet (quiet : ∀ event ∈ events, event.call.IsQuiet) :
    inquiries events = [] :=
  List.filterMap_eq_nil_iff.mpr fun event member => Inquiry.ofEvent?_eq_none (quiet event member)

/-- Steps that ask no generator make no inquiry. -/
theorem inquiries_of_take {α : Type} {steps : Steps α} {outcome : Option α}
    (take : steps.Take Action.IsQuiet)
    (run : Runs disturbed (ofSteps steps) site events outcome last) : inquiries events = [] := by
  have forwards : Forwards (fun _ _ => True) Action.IsQuiet (fun _ _ => True) Call.IsQuiet :=
    ⟨id, id, id, id, trivial⟩
  exact inquiries_of_quiet
    (run.upholds (upholds_ofSteps forwards take) fun _ _ => trivial).1

/-- A call that has to do with the lock only writes nothing and makes no inquiry. -/
theorem wrote_of_call {call : Call} {outcome : Option call.Answer}
    (run : Runs disturbed (Request.call call) site events outcome last)
    (unwritten : site.callWrites call = []) (quiet : call.IsQuiet) :
    site.Wrote [] last ∧ inquiries events = [] := by
  refine ⟨run.ends (fun _ _ => id) (ensures_call_unwritten unwritten), ?_⟩
  have upholds : Program.Upholds (fun _ _ => True) Call.IsQuiet (fun _ => True)
      (Request.call call) := ⟨quiet, fun _ _ => trivial⟩
  exact inquiries_of_quiet (run.upholds upholds fun _ _ => trivial).1

/-- With nobody else there a request that is done stays where it is. -/
theorem ended_of_done {α : Type} {result : α} {outcome : Option α}
    (run : Runs disturbed (.done result) site events outcome last) :
    last = site ∧ events = [] ∧ outcome = some result := by
  obtain ⟨none, same, others⟩ := run.of_done
  rcases others.cases_head with rfl | ⟨_, other, -⟩
  · exact ⟨rfl, none, same⟩
  · exact other.elim

/-- What has been written while a request went on stays in the journal. -/
theorem journal_prefix {α : Type} {request : Request α} {outcome : Option α}
    (run : Runs disturbed request site events outcome last) :
    site.journal <+: last.journal ∧
      ∀ event ∈ events, event.after.journal <+: last.journal := by
  induction run with
  | done | stop =>
    exact ⟨List.prefix_rfl, fun event member => (List.not_mem_nil member).elim⟩
  | givenUp _ given => exact given.elim
  | outside changed => exact changed.elim
  | step answered _ inductionHypothesis =>
    obtain ⟨writes, -, -, journal⟩ := answered.made
    have grown := journal.symm ▸ List.prefix_append _ writes
    exact ⟨grown.trans inductionHypothesis.1, List.forall_mem_cons.mpr inductionHypothesis⟩

/-- Steps without a deadline are done one after the other. -/
theorem ofSteps_andThen {α β : Type} (first : Steps (Result α)) (next : α → Steps (Result β)) :
    ofSteps (first.andThen next) = (ofSteps first).bind fun
      | .ok value => ofSteps (next value)
      | .error error => .done (.error error) := by
  induction first with
  | done result => cases result <;> rfl
  | step action next inductionHypothesis =>
    exact congrArg (Program.step _) (funext inductionHypothesis)

end Request

/-! ### The second part of a move -/

/-- What a generator is asked for: the downloads of a version, by its instance. -/
def VersionDetails.generateRequest (details : VersionDetails) (version : Version) :
    GenerateRequest where
  datasetId := details.datasetId
  instanceId := version.id
  edition := details.edition
  version := Decimal.text details.number.toNat

/-- The ways in which a settled move may be concluded, or broken off: with which inquiries, and with
which outcome. -/
inductive Settlement.Concludes (settlement : Settlement) (site : Site) :
    List Inquiry → Option (Result Version) → Prop
  | unasked : settlement.asks = none →
    Concludes settlement site [] (some (.ok settlement.persisted))
  | missing {type : DatasetType} {error : CatalogError} : settlement.asks = some type →
    settlement.context.generators.get type = .error error →
    Concludes settlement site [] (some (.error error))
  | brokenOff : Concludes settlement site [] none
  | asked {type : DatasetType} {generator : Generator} (answer : Result Unit) :
    settlement.asks = some type → settlement.context.generators.get type = .ok generator →
    Concludes settlement site
      [⟨generator, settlement.context.details.generateRequest settlement.context.candidate,
        some answer, site⟩]
      (some (answer.map fun _ => settlement.persisted))

/-- A settled move is concluded in one of these ways, and nothing is written any more. -/
theorem Settlement.concludes_of_runs {settlement : Settlement} {site last : Site}
    {events : List (Event Call.Answer Site)} {outcome : Option (Result Version)}
    (run : Runs Request.disturbed (Request.ofSteps settlement.conclude) site events outcome last) :
    last = site ∧ settlement.Concludes site (Request.inquiries events) outcome := by
  unfold conclude at run
  cases asks : settlement.asks with
  | none =>
    simp only [asks] at run
    obtain ⟨rfl, rfl, rfl⟩ := Request.ended_of_done run
    exact ⟨rfl, .unasked asks⟩
  | some type =>
    simp only [asks] at run
    unfold TransitionContext.generateDownloads at run
    cases got : settlement.context.generators.get type with
    | error error =>
      rw [got] at run
      obtain ⟨rfl, rfl, rfl⟩ := Request.ended_of_done run
      exact ⟨rfl, .missing asks got⟩
    | ok generator =>
      rw [got] at run
      cases run with
      | stop => exact ⟨rfl, .brokenOff⟩
      | givenUp _ given => exact given.elim
      | outside changed => exact changed.elim
      | step answered rest =>
        rename_i after events answer
        obtain rfl : after = site := by
          cases answered with
          | act carried => cases carried <;> rfl
        match answer with
        | .error error =>
          obtain ⟨rfl, rfl, rfl⟩ := Request.ended_of_done rest
          exact ⟨rfl, .asked (.error error) asks got⟩
        | .ok () =>
          obtain ⟨rfl, rfl, rfl⟩ := Request.ended_of_done rest
          exact ⟨rfl, .asked (.ok ()) asks got⟩

/-! ### The course of a request -/

/-- How many writes a cascade has does not depend on when they are made. -/
theorem VersionDetails.length_cascade (details : VersionDetails) (update : Version)
    (catalog : Catalog) (first second : CascadeTimes) :
    (details.cascade update catalog first).length =
      (details.cascade update catalog second).length := by
  unfold cascade
  split
  · next stored dataset _ _ =>
    have edition (link : Option Link) (first second : Timestamp) :
        (details.editionWrites catalog link first).length =
          (details.editionWrites catalog link second).length := by
      unfold editionWrites
      split <;> rfl
    have parents : (details.parentWrites catalog dataset (Version.combine stored update)
        first).length =
          (details.parentWrites catalog dataset (Version.combine stored update) second).length := by
      unfold parentWrites
      split
      · simp only [List.length_append, edition _ first.edition second.edition]
        rfl
      · split <;> rfl
      · rfl
    rw [List.length_append, List.length_append, parents]
    rfl
  · rfl

theorem VersionDetails.cascade_ne_nil {details : VersionDetails} {catalog : Catalog}
    {dataset : Dataset} {stored : Version}
    (foundDataset : catalog.datasets.get? details.datasetId = some dataset)
    (foundVersion : catalog.versions.get? details.slot = some stored) (update : Version)
    (times : CascadeTimes) : details.cascade update catalog times ≠ [] := by
  simp only [cascade, foundVersion, foundDataset]
  exact List.cons_ne_nil _ _

/-- Of a cascade that is in the journal as a whole no part is missing in a longer journal, and
nothing else has been written. -/
theorem VersionDetails.eq_cascade_of_prefix {details : VersionDetails} {update : Version}
    {catalog : Catalog} {first second : CascadeTimes} {writes : List Write}
    (whole : details.cascade update catalog first <+: writes)
    (begun : writes <+: details.cascade update catalog second) :
    writes = details.cascade update catalog first ∧
      writes = details.cascade update catalog second := by
  have least := whole.length_le
  rw [details.length_cascade update catalog first second] at least
  have all := begun.eq_of_length_le least
  have same := (congrArg List.length all).trans
    (details.length_cascade update catalog second first)
  exact ⟨(whole.eq_of_length_le (Nat.le_of_eq same)).symm, all⟩

namespace Machine

/-- The ways in which a request may come from a site to another one, with which inquiries and with
which outcome: it has not settled its move, it failed to, or it has done so. -/
inductive Course (machine : Machine) (details : VersionDetails) (update : Version)
    (options : AmendOptions) (site last : Site) : List Inquiry → Option (Result Version) → Prop
  | underWay {times : CascadeTimes} {writes : List Write} :
    writes <+: details.cascade update site.catalog times → site.Wrote writes last →
    Course machine details update options site last [] none
  | failed {times : CascadeTimes} {writes : List Write} (error : CatalogError) :
    writes <+: (details.cascade update site.catalog times).dropLast → site.Wrote writes last →
    Course machine details update options site last [] (some (.error error))
  | settled {times : CascadeTimes} {dataset : Dataset} {stored : Version}
    {settlement : Settlement} {middle : Site} {inquiries : List Inquiry}
    {concluded outcome : Option (Result Version)} :
    site.catalog.datasets.get? details.datasetId = some dataset →
    site.catalog.versions.get? details.slot = some stored →
    (machine.context details update options dataset stored).Settles site.catalog settlement →
    site.Wrote (details.cascade update site.catalog times) middle → middle.Wrote [] last →
    settlement.Concludes middle inquiries concluded → outcome = none ∨ outcome = concluded →
    Course machine details update options site last inquiries outcome

variable {machine : Machine} {details : VersionDetails} {update : Version}
  {options : AmendOptions} {identifiers : VersionIdentifiers} {site before middle last : Site}
  {inquiries : List Inquiry}
  {events : List (Event Call.Answer Site)} {outcome later : Option (Result Version)}

/-- A request may be broken off or fail before it has written anything. -/
theorem Course.of_unwritten (unwritten : site.Wrote [] last)
    (unsuccessful : ∀ version, outcome ≠ some (.ok version)) :
    machine.Course details update options site last [] outcome := by
  have nothing : [] <+: details.cascade update site.catalog default := List.nil_prefix
  have nearly : [] <+: (details.cascade update site.catalog default).dropLast := List.nil_prefix
  match outcome with
  | none => exact .underWay nothing unwritten
  | some (.error error) => exact .failed error nearly unwritten
  | some (.ok version) => exact absurd rfl (unsuccessful version)

/-- A course goes on while nothing is written and no generator is asked. -/
theorem Course.trans (course : machine.Course details update options site middle inquiries outcome)
    (unwritten : middle.Wrote [] last) (ends : later = none ∨ later = outcome) :
    machine.Course details update options site last inquiries later := by
  cases course with
  | underWay begun wrote =>
    obtain rfl : later = none := ends.elim id id
    exact .underWay begun (wrote.unwritten unwritten)
  | failed error begun wrote =>
    rcases ends with rfl | rfl
    · exact .underWay (begun.trans (List.dropLast_prefix _)) (wrote.unwritten unwritten)
    · exact .failed error begun (wrote.unwritten unwritten)
  | settled foundDataset foundVersion settles wrote rest concludes stopped =>
    refine .settled foundDataset foundVersion settles wrote (rest.trans unwritten) concludes ?_
    rcases ends with rfl | rfl
    · exact .inl rfl
    · exact stopped

/-- The steps under the lock take one of these courses. -/
theorem course_of_locked (standard : machine.handlers = {}) (filed : site.catalog.WellFiled)
    (begun : site.Wrote [] before)
    (run : Runs Request.disturbed (Request.ofSteps (machine.locked details update options)) before
      events outcome last) :
    machine.Course details update options site last (Request.inquiries events) outcome := by
  have alone (state after : Site) : ¬Request.disturbed.outside state after := id
  have same : before.catalog = site.catalog := begun.catalog
  have attains := Request.ensures_ofSteps Request.relays_disturbed
    (attains_settled standard details update options (same ▸ filed))
  have quiet := machine.take_settled details update options
  rw [locked_eq, Request.ofSteps_andThen] at run
  rcases run.bind_cases with ⟨rfl, settling⟩ | ⟨result, middle, first, rest, settling, run, rfl⟩
  · obtain ⟨times, writes, made, writesBegun, -⟩ := settling.ends alone attains
    rw [Request.inquiries_of_take quiet settling]
    exact .underWay (same ▸ writesBegun) (begun.trans made.wrote)
  · obtain ⟨times, writes, made, -, whole, short⟩ := settling.ends alone attains
    rw [Request.inquiries_append, Request.inquiries_of_take quiet settling, List.nil_append]
    rw [same] at whole short
    match result with
    | .error error =>
      obtain ⟨rfl, rfl, rfl⟩ := Request.ended_of_done run
      exact .failed error (short error rfl) (begun.trans made.wrote)
    | .ok settlement =>
      obtain ⟨rfl, dataset, stored, foundDataset, foundVersion, settles⟩ := whole settlement rfl
      obtain ⟨rfl, concludes⟩ := Settlement.concludes_of_runs run
      exact .settled foundDataset foundVersion settles (begun.trans made.wrote)
        (.refl last) concludes (.inr rfl)

/-- The steps under the lock and its release take one of these courses, if there is no deadline. -/
theorem course_of_lockedInTime (standard : machine.handlers = {})
    (unhurried : machine.deadline = none) (filed : site.catalog.WellFiled)
    (begun : site.Wrote [] before) {kind : LockKind} {token : LockToken}
    (run : Runs Request.disturbed ((machine.lockedInTime details update options).bind fun result =>
      (Request.call (.release kind token)).bind fun () => .done result) before events outcome
      last) :
    machine.Course details update options site last (Request.inquiries events) outcome := by
  have inTime : machine.lockedInTime details update options =
      Request.ofSteps (machine.locked details update options) := by
    unfold lockedInTime
    rw [unhurried]
  rw [inTime] at run
  rcases run.bind_cases with ⟨rfl, locked⟩ | ⟨result, middle, first, rest, locked, toRelease, rfl⟩
  · exact course_of_locked standard filed begun locked
  have course := course_of_locked standard filed begun locked
  rw [Request.inquiries_append]
  rcases toRelease.bind_cases with ⟨rfl, released⟩ |
    ⟨_, after, earlier, later, released, answered, rfl⟩
  · obtain ⟨unwritten, none⟩ := Request.wrote_of_call released rfl trivial
    rw [none, List.append_nil]
    exact course.trans unwritten (.inl rfl)
  · obtain ⟨unwritten, none⟩ := Request.wrote_of_call released rfl trivial
    obtain ⟨rfl, rfl, rfl⟩ := Request.ended_of_done answered
    rw [List.append_nil, none, List.append_nil]
    exact course.trans unwritten (.inr rfl)

/-- Choosing the lock asks no generator. -/
theorem take_lockKind (details : VersionDetails) : (lockKind details).Take Action.IsQuiet := by
  refine ⟨trivial, fun answer _ => ?_⟩
  match answer with
  | .ok type => exact trivial
  | .error error => exact trivial

/-- A request without a deadline takes one of these courses. -/
theorem course_of_runs (standard : machine.handlers = {}) (unhurried : machine.deadline = none)
    (filed : site.catalog.WellFiled)
    (run : Runs Request.disturbed (machine.amendVersion details update options) site events outcome
      last) :
    machine.Course details update options site last (Request.inquiries events) outcome := by
  have alone (state after : Site) : ¬Request.disturbed.outside state after := id
  have choosing : Ensures Request.disturbed (fun _ last => site.Made [] last)
      (Request.ofSteps (lockKind details)) site :=
    Request.ensures_ofSteps Request.relays_disturbed (ensures_lockKind details)
  unfold amendVersion at run
  rcases run.bind_cases with ⟨rfl, chosen⟩ | ⟨kind, atLock, first, rest, chosen, toLock, rfl⟩
  · rw [Request.inquiries_of_take (take_lockKind details) chosen]
    exact .of_unwritten (chosen.ends alone choosing).wrote fun _ => nofun
  have begun := (chosen.ends alone choosing).wrote
  rw [Request.inquiries_append, Request.inquiries_of_take (take_lockKind details) chosen,
    List.nil_append]
  rcases toLock.bind_cases with ⟨rfl, acquired⟩ |
    ⟨answer, before, first, rest, acquired, fromLock, rfl⟩
  · obtain ⟨unwritten, none⟩ := Request.wrote_of_call acquired rfl trivial
    rw [none]
    exact .of_unwritten (begun.trans unwritten) fun _ => nofun
  obtain ⟨unwritten, none⟩ := Request.wrote_of_call acquired rfl trivial
  rw [Request.inquiries_append, none, List.nil_append]
  match answer with
  | .error error =>
    obtain ⟨rfl, rfl, rfl⟩ := Request.ended_of_done fromLock
    exact .of_unwritten (begun.trans unwritten) fun _ => nofun
  | .ok token =>
    exact course_of_lockedInTime standard unhurried filed (begun.trans unwritten) fromLock

/-! ### The law -/

/-- A request that has made all its writes ends as it should: where downloads are not called for no
generator is asked and the request succeeds. Where they are, the generator of their type is asked,
and the request fails if there is none or if that one does, with the same error. -/
structure Concludes (machine : Machine) (details : VersionDetails) (update : Version)
    (options : AmendOptions) (catalog : Catalog) (stored : Version) (inquiries : List Inquiry)
    (result : Result Version) : Prop where
  uncalled : ¬stored.CallsForDownloads update options.hasDownloads →
    inquiries = [] ∧ ∃ version, result = .ok version
  called : stored.CallsForDownloads update options.hasDownloads → ∃ type,
    details.downloadType catalog (Version.combine stored update) = .ok type ∧
      match machine.generators.get type with
      | .error error => inquiries = [] ∧ result = .error error
      | .ok generator => ∃ site answer version, inquiries =
          [⟨generator, details.generateRequest stored, some answer, site⟩] ∧
            result = answer.map fun _ => version

/-- The request asks for downloads exactly as it should. -/
structure AsksForDownloads (machine : Machine) (details : VersionDetails) (update : Version)
    (options : AmendOptions) (site last : Site) (events : List (Event Call.Answer Site))
    (outcome : Option (Result Version)) : Prop where
  once : (Request.inquiries events).length ≤ 1
  /-- Where a generator is asked, downloads of the version are called for, it is the generator of
  their type, and everything has been written, after which nothing is. -/
  settled : ∀ inquiry ∈ Request.inquiries events, ∃ stored type times,
    site.catalog.versions.get? details.slot = some stored ∧
      stored.CallsForDownloads update options.hasDownloads ∧
      details.downloadType site.catalog (Version.combine stored update) = .ok type ∧
      machine.generators.get type = .ok inquiry.generator ∧
      inquiry.request = details.generateRequest stored ∧
      site.Wrote (details.cascade update site.catalog times) inquiry.site ∧
      inquiry.site.Wrote [] last
  /-- Once everything has been written it stays written, and whether a generator is asked depends on
  whether downloads are called for. -/
  complete : ∀ dataset stored times, ∀ event ∈ events,
    site.catalog.datasets.get? details.datasetId = some dataset →
    site.catalog.versions.get? details.slot = some stored →
    event.after.journal = site.journal ++ details.cascade update site.catalog times →
    site.Wrote (details.cascade update site.catalog times) last ∧
      ∀ result, outcome = some result → machine.Concludes details update options site.catalog
        stored (Request.inquiries events) result

/-- A settled move that is concluded, and not broken off, ends as it should. -/
theorem concludes_of_settles {catalog : Catalog} {dataset : Dataset} {stored : Version}
    {settlement : Settlement} {result : Result Version}
    (settles : (machine.context details update options dataset stored).Settles catalog settlement)
    (concludes : settlement.Concludes middle inquiries (some result)) :
    machine.Concludes details update options catalog stored inquiries result := by
  have own : settlement.context = machine.context details update options dataset stored :=
    settles.own
  cases concludes with
  | unasked asks =>
    have uncalled := settles.unasked asks
    exact ⟨fun _ => ⟨rfl, _, rfl⟩, fun calls => absurd calls uncalled⟩
  | missing asks lacks =>
    obtain ⟨calls, typed⟩ := settles.asked _ asks
    rw [own] at lacks
    refine ⟨fun uncalled => absurd calls uncalled, fun _ => ⟨_, typed, ?_⟩⟩
    rw [show machine.generators.get _ = _ from lacks]
    exact ⟨rfl, rfl⟩
  | asked answer asks got =>
    obtain ⟨calls, typed⟩ := settles.asked _ asks
    rw [own] at got
    refine ⟨fun uncalled => absurd calls uncalled, fun _ => ⟨_, typed, ?_⟩⟩
    rw [show machine.generators.get _ = _ from got]
    refine ⟨middle, answer, settlement.persisted, ?_, rfl⟩
    rw [own]
    rfl

/-- On no course is more than one generator asked. -/
theorem Course.once
    (course : machine.Course details update options site last inquiries outcome) :
    inquiries.length ≤ 1 := by
  cases course with
  | underWay | failed => exact Nat.zero_le 1
  | settled _ _ _ _ _ concludes _ =>
    cases concludes with
    | unasked | missing | brokenOff => exact Nat.zero_le 1
    | asked => exact Nat.le_refl 1

/-- A generator is asked on a course on which the move has been settled. -/
theorem Course.inquiry_settled
    (course : machine.Course details update options site last inquiries outcome)
    {inquiry : Inquiry} (member : inquiry ∈ inquiries) : ∃ stored type times,
      site.catalog.versions.get? details.slot = some stored ∧
        stored.CallsForDownloads update options.hasDownloads ∧
        details.downloadType site.catalog (Version.combine stored update) = .ok type ∧
        machine.generators.get type = .ok inquiry.generator ∧
        inquiry.request = details.generateRequest stored ∧
        site.Wrote (details.cascade update site.catalog times) inquiry.site ∧
        inquiry.site.Wrote [] last := by
  cases course with
  | underWay | failed => exact (List.not_mem_nil member).elim
  | settled _ foundVersion settles wrote rest concludes _ =>
    cases concludes with
    | unasked | missing | brokenOff => exact (List.not_mem_nil member).elim
    | asked answer asks got =>
      obtain rfl := List.mem_singleton.mp member
      obtain ⟨calls, typed⟩ := settles.asked _ asks
      rw [settles.own] at got
      refine ⟨_, _, _, foundVersion, calls, typed, got, ?_, wrote, rest⟩
      rw [settles.own]
      rfl

/-- A course that has come to the last write of the cascade ends as it should. -/
theorem Course.complete
    (course : machine.Course details update options site last inquiries outcome)
    {dataset : Dataset} {stored : Version} {times : CascadeTimes}
    (foundDataset : site.catalog.datasets.get? details.datasetId = some dataset)
    (foundVersion : site.catalog.versions.get? details.slot = some stored)
    (come : site.journal ++ details.cascade update site.catalog times <+: last.journal) :
    site.Wrote (details.cascade update site.catalog times) last ∧
      ∀ result, outcome = some result →
        machine.Concludes details update options site.catalog stored inquiries result := by
  have whole {writes : List Write} (wrote : site.Wrote writes last) :
      details.cascade update site.catalog times <+: writes :=
    (List.prefix_append_right_inj _).mp (wrote.journal ▸ come)
  cases course with
  | underWay begun wrote =>
    obtain ⟨rfl, -⟩ := VersionDetails.eq_cascade_of_prefix (whole wrote) begun
    exact ⟨wrote, fun _ => nofun⟩
  | failed error begun wrote =>
    obtain ⟨-, all⟩ := VersionDetails.eq_cascade_of_prefix (whole wrote)
      (begun.trans (List.dropLast_prefix _))
    have short := begun.length_le
    rw [all, List.length_dropLast] at short
    refine absurd short (Nat.not_le.mpr (Nat.sub_one_lt (mt List.length_eq_zero_iff.mp ?_)))
    exact VersionDetails.cascade_ne_nil foundDataset foundVersion update _
  | settled sameDataset sameVersion settles wrote rest concludes stopped =>
    have wrote := wrote.unwritten rest
    obtain ⟨same, -⟩ := VersionDetails.eq_cascade_of_prefix (whole wrote) List.prefix_rfl
    refine ⟨same ▸ wrote, fun result ended => ?_⟩
    obtain rfl := Option.some_inj.mp (sameVersion.symm.trans foundVersion)
    rcases stopped with rfl | rfl
    · cases ended
    · exact concludes_of_settles settles (ended ▸ concludes)

/-- Downloads are asked for exactly when they should be, whatever fails on the way, if the workflow
has no deadline. An update of an unknown type, and identifiers that name no version, are turned down
before anything is done. -/
theorem amend_asks_for_downloads (standard : machine.handlers = {})
    (unhurried : machine.deadline = none) (filed : site.catalog.WellFiled)
    (run : Runs Request.disturbed (machine.amend identifiers update options) site events outcome
      last) :
    match identifiers.resolve with
    | .error error => events = [] ∧ outcome = some (.error error)
    | .ok details => machine.AsksForDownloads details update options site last events outcome := by
  unfold amend at run
  cases named : identifiers.resolve with
  | error error =>
    simp only [named] at run
    obtain ⟨-, rfl, rfl⟩ := Request.ended_of_done run
    exact ⟨rfl, rfl⟩
  | ok details =>
    simp only [named] at run
    have grown := (Request.journal_prefix run).2
    have course :
        machine.Course details update options site last (Request.inquiries events) outcome := by
      split at run
      · obtain ⟨rfl, rfl, rfl⟩ := Request.ended_of_done run
        exact .of_unwritten (.refl last) fun _ => nofun
      · exact course_of_runs standard unhurried filed run
    exact ⟨course.once, fun _ => course.inquiry_settled,
      fun _ _ _ event member foundDataset foundVersion journal =>
        course.complete foundDataset foundVersion (journal ▸ grown event member)⟩

/-- The version of the sample is put into another collection, and has no downloads yet. -/
theorem amend_asks_for_downloads_sample :
    let machine : Machine := { generators := .recording [.filterable] }
    let identifiers : VersionIdentifiers := ⟨"cpih01", "time-series", "1"⟩
    let details : VersionDetails := ⟨"cpih01", "time-series", 1⟩
    let update : Version := { state := some .associated, collectionId := "collection-2" }
    let request := machine.amend identifiers update {}
    machine.handlers = {} ∧ machine.deadline = none ∧ Site.sample.catalog.WellFiled ∧
      identifiers.resolve = .ok details ∧
      ∃ events result last, Runs Request.disturbed request Site.sample events (some result) last ∧
        (Request.inquiries events).map (·.request) =
          [⟨"cpih01", "import-1", "time-series", "1"⟩] ∧
        machine.AsksForDownloads details update {} Site.sample last events (some result) := by
  intro machine identifiers details update request
  have named : identifiers.resolve = .ok details := VersionIdentifiers.resolve_sample
  have run := Program.runs_eventsAmong Request.disturbed (fun _ site => site) Site.perform
    (fun call site => site.answers_perform call) (fun _ _ => .inl rfl) request Site.sample
  have asks := amend_asks_for_downloads rfl rfl Site.wellFiled_sample run
  rw [named] at asks
  have asked : (Request.inquiries
      (request.eventsAmong (fun _ site => site) Site.perform Site.sample)).map (·.request) =
        [⟨"cpih01", "import-1", "time-series", "1"⟩] := by decide +kernel
  exact ⟨rfl, rfl, Site.wellFiled_sample, named, _, _, _, run, asked, asks⟩

end Machine

end ReleaseCatalog
