/-
What a request writes while it has the lock of a version. Others go on meanwhile, and may change all
that the request reads of the parents; but the slot of the version is in its custody. It finds there
what it put there last itself or, as long as it has put nothing there, what it found when it took
the lock. So of the whole site only the request's own entries are kept track of: what it has
written, each with the site at which it was.

Whatever the rules and the handlers are, and whatever fails or is given up, all entries were made in
their turn. The first one is the document that the update makes of the one that was found, if the
rules allow the move; and the parents are written only after it, as the handler of its state does.
-/

import ReleaseCatalog.Proofs.Workflow.Cascade

namespace ReleaseCatalog

variable {α β : Type}

/-- An item of two lists together is one of the first list or of the second. -/
theorem split_append {first second front back : List α} {item : α}
    (same : first ++ second = front ++ item :: back) :
    (∃ rest, first = front ++ item :: rest) ∨
      ∃ between, front = first ++ between ∧ second = between ++ item :: back := by
  rcases List.append_eq_append_iff.mp same with ⟨between, rfl, made⟩ | ⟨_ | ⟨head, rest⟩, rfl, made⟩
  · exact .inr ⟨between, rfl, made⟩
  · exact .inr ⟨[], by simp, made.symm⟩
  · cases made
    exact .inl ⟨rest, rfl⟩

/-! ### Entries -/

/-- A write that was made, and the site at which the call was made. -/
structure Entry where
  site : Site
  write : Write

namespace Entry

/-- The entries of a call with these writes. -/
def ofWrites (site : Site) (writes : List Write) : List Entry :=
  writes.map (Entry.mk site)

/-- The versions that were put into a slot, in their order. -/
def documents (slot : VersionKey) (entries : List Entry) : List Version :=
  Write.documentsAt slot (entries.map Entry.write)

variable {slot : VersionKey}

theorem documents_append (first rest : List Entry) :
    documents slot (first ++ rest) = documents slot first ++ documents slot rest := by
  unfold documents
  rw [List.map_append, Write.documentsAt_append]

@[simp]
theorem documents_ofWrites (site : Site) (writes : List Write) :
    documents slot (ofWrites site writes) = Write.documentsAt slot writes := by
  unfold documents ofWrites
  rw [List.map_map]
  exact congrArg _ (List.map_id _)

theorem mem_documents_iff {entries : List Entry} {document : Version} :
    document ∈ documents slot entries ↔ ∃ entry ∈ entries, entry.write = .version slot document := by
  unfold documents
  rw [Write.mem_documentsAt_iff, List.mem_map]

end Entry

/-- The content of a slot in which a document was found, or none, and in which these were put
since. -/
def Write.contentAfter (found : Option Version) (documents : List Version) : Option Version :=
  documents.getLast? <|> found

theorem Write.contentAfter_append (found : Option Version) (first rest : List Version) :
    contentAfter found (first ++ rest) = contentAfter (contentAfter found first) rest := by
  unfold contentAfter
  rw [List.getLast?_append]
  cases rest.getLast? <;> rfl

/-- After writes there is in a slot what was put there last, or what was there before. -/
theorem Catalog.content_writeAll (catalog : Catalog) (writes : List Write) (slot : VersionKey) :
    (catalog.writeAll writes).versions.get? slot =
      Write.contentAfter (catalog.versions.get? slot) (Write.documentsAt slot writes) := by
  induction writes generalizing catalog with
  | nil => rfl
  | cons change rest inductionHypothesis =>
    rw [writeAll_cons, inductionHypothesis, ← List.singleton_append, Write.documentsAt_append,
      Write.contentAfter_append]
    refine congrArg (Write.contentAfter · _) ?_
    cases change with
    | dataset | edition | record => rfl
    | version other document =>
      by_cases here : other = slot
      · subst here
        rw [Catalog.write, Collection.get?_put_self]
        simp [Write.contentAfter, Write.documentsAt, Write.documentAt]
      · rw [Catalog.write, Collection.get?_put_other _ (Ne.symm here)]
        simp [Write.contentAfter, Write.documentsAt, Write.documentAt, here]

/-! ### What may be written -/

namespace Machine

/-- The handler that brings a version into its state. -/
def handler? (machine : Machine) (version : Version) : Option Handler :=
  version.state.map machine.handlers.handler

/-- The document is what the update makes of the one that stands in the slot of the version at the
site, and the rules allow the move. -/
structure Replaces (machine : Machine) (details : VersionDetails) (update : Version) (site : Site)
    (stored document : Version) : Prop where
  filed : stored.key = details.slot
  found : site.catalog.versions.get? details.slot = some stored
  allowed : TransitionContext.checkMove machine.transitions stored
    (Version.combine stored update) = .ok ()
  made : document = Version.stamp site.now stored (Version.combine stored update)

/-- A document is filed where the one stood that it replaces. -/
theorem Replaces.key_eq {machine : Machine} {details : VersionDetails} {update : Version}
    {site : Site} {stored document : Version}
    (replaces : machine.Replaces details update site stored document) :
    document.key = details.slot := by
  rw [← replaces.filed, replaces.made]
  rfl

/-- What may be written at a site by an update that has put these documents into the slot of its
version: the document, if there is none yet; and then what its handler does for the parents. -/
inductive Licenses (machine : Machine) (details : VersionDetails) (update : Version)
    (documents : List Version) (site : Site) : Write → Prop
  | version {stored document : Version} :
    documents = [] → machine.Replaces details update site stored document →
    Licenses machine details update documents site (.version details.slot document)
  /-- The state of the version is carried over to its instance. -/
  | mirror {written : Version} {record : Instance} :
    written ∈ documents → site.catalog.instances.get? written.id = some record →
    Licenses machine details update documents site
      (.record written.id { record with state := written.state })
  | association {written : Version} {dataset : Dataset} :
    written ∈ documents → machine.handler? written = some .associated →
    site.catalog.datasets.get? details.datasetId = some dataset →
    Licenses machine details update documents site
      (.dataset details.datasetId
        (dataset.associateNext details.datasetId site.now .associated written))
  | editionPromotion {written : Version} {edition promoted : Edition} {now : Timestamp} :
    written ∈ documents → machine.handler? written = some .published →
    edition.promote now written.versionLink = (promoted, .ok ()) →
    Licenses machine details update documents site
      (.edition (details.datasetId, details.edition) promoted.stamp)
  | publication {written : Version} {record : Instance} :
    written ∈ documents → machine.handler? written = some .published →
    site.catalog.instances.get? written.id = some record →
    Licenses machine details update documents site
      (.record written.id { record with isPublished := true, state := some .published })
  | datasetPromotion {written : Version} (dataset : Dataset) (now : Timestamp) :
    written ∈ documents → machine.handler? written = some .published →
    Licenses machine details update documents site
      (.dataset details.datasetId { dataset.promote now written with id := details.datasetId })

/-- Each entry was made in its turn. -/
def Orderly (machine : Machine) (details : VersionDetails) (update : Version)
    (entries : List Entry) : Prop :=
  ∀ earlier entry later, entries = earlier ++ entry :: later →
    machine.Licenses details update (Entry.documents details.slot earlier) entry.site entry.write

/-- What a request may have written when it has come to an outcome or is still under way: all in its
turn, and the version that it answered when it succeeded, but for the date. -/
structure Conforms (machine : Machine) (details : VersionDetails) (update : Version)
    (outcome : Option (Result Version)) (entries : List Entry) : Prop where
  orderly : machine.Orderly details update entries
  written (version : Version) : outcome = some (.ok version) →
    ∃ document, Entry.documents details.slot entries = [document] ∧
      version = { document with lastUpdated := version.lastUpdated }

section Orderly

variable {machine : Machine} {details : VersionDetails} {update : Version} {entries rest : List Entry}
  {site : Site} {writes : List Write}

theorem orderly_nil : machine.Orderly details update [] := by
  intro earlier entry later same
  cases earlier <;> cases same

theorem Orderly.of_append (orderly : machine.Orderly details update (entries ++ rest)) :
    machine.Orderly details update entries := by
  rintro earlier entry later rfl
  exact orderly earlier entry (later ++ rest) (by simp)

/-- A document that was put into a slot was put into the one of the version, in the place of the one
that stood there. -/
theorem Orderly.exists_replaces (orderly : machine.Orderly details update entries)
    {slot : VersionKey} {document : Version} (put : document ∈ Entry.documents slot entries) :
    slot = details.slot ∧ ∃ entry ∈ entries, entry.write = .version slot document ∧
      ∃ stored, machine.Replaces details update entry.site stored document := by
  obtain ⟨entry, member, written⟩ := Entry.mem_documents_iff.mp put
  obtain ⟨earlier, later, rfl⟩ := List.append_of_mem member
  have licensed := orderly earlier entry later rfl
  rw [written] at licensed
  cases licensed with
  | version _ replaces => exact ⟨rfl, entry, member, written, _, replaces⟩

/-- What a call has written in order was licensed by what was written before, also by the call. -/
theorem Orderly.licenses
    (orderly : machine.Orderly details update (entries ++ Entry.ofWrites site writes))
    {front back : List Write} {change : Write} (split : writes = front ++ change :: back) :
    machine.Licenses details update
      (Entry.documents details.slot entries ++ Write.documentsAt details.slot front) site
      change := by
  have licensed := orderly (entries ++ Entry.ofWrites site front) ⟨site, change⟩
    (Entry.ofWrites site back) (by simp [split, Entry.ofWrites])
  rwa [Entry.documents_append, Entry.documents_ofWrites] at licensed

/-- Order is kept by a call whose writes are licensed one after another. -/
theorem Orderly.append_writes (orderly : machine.Orderly details update entries)
    (licensed : ∀ front change back, writes = front ++ change :: back →
      machine.Licenses details update
        (Entry.documents details.slot entries ++ Write.documentsAt details.slot front) site
        change) :
    machine.Orderly details update (entries ++ Entry.ofWrites site writes) := by
  intro earlier entry later same
  rcases split_append same with ⟨middle, rfl⟩ | ⟨between, rfl, made⟩
  · exact orderly earlier entry middle rfl
  · obtain ⟨front, rest, split, rfl, others⟩ := List.map_eq_append_iff.mp made
    obtain ⟨change, back, rfl, rfl, rfl⟩ := List.map_eq_cons_iff.mp others
    have here := licensed front change back split
    rwa [← Entry.documents_ofWrites site front, ← Entry.documents_append] at here

/-- A call puts one document into the slot of the version at most, and that only if there was none
of the request before; and it puts none into any other slot. -/
theorem Orderly.documentsAt_cases
    (orderly : machine.Orderly details update (entries ++ Entry.ofWrites site writes))
    (slot : VersionKey) :
    Write.documentsAt slot writes = [] ∨
      slot = details.slot ∧ Entry.documents slot entries = [] ∧ ∃ stored document,
        machine.Replaces details update site stored document ∧
          Write.documentsAt slot writes = [document] := by
  have licensed (front back : List Write) (document : Version)
      (split : writes = front ++ .version slot document :: back) :
      slot = details.slot ∧ Entry.documents slot entries = [] ∧ Write.documentsAt slot front = [] ∧
        ∃ stored, machine.Replaces details update site stored document := by
    generalize made : Write.version slot document = change at split
    cases orderly.licenses split with
    | version vacant replaces =>
      cases made
      exact ⟨rfl, (List.append_eq_nil_iff.mp vacant).1, (List.append_eq_nil_iff.mp vacant).2, _,
        replaces⟩
    | mirror | association | editionPromotion | publication | datasetPromotion => cases made
  by_cases nothing : Write.documentsAt slot writes = []
  · exact .inl nothing
  obtain ⟨document, put⟩ := List.exists_mem_of_ne_nil _ nothing
  obtain ⟨front, back, split⟩ := List.append_of_mem (Write.mem_documentsAt_iff.mp put)
  obtain ⟨here, vacant, before, stored, replaces⟩ := licensed front back document split
  have after : Write.documentsAt slot back = [] := by
    refine Write.documentsAt_eq_nil_iff.mpr fun other member => ?_
    obtain ⟨between, others, rfl⟩ := List.append_of_mem member
    obtain ⟨-, -, none, -⟩ := licensed (front ++ .version slot document :: between) others other
      (by simp [split])
    exact Write.documentsAt_eq_nil_iff.mp none document (by simp)
  refine .inr ⟨here, vacant, stored, document, replaces, ?_⟩
  rw [split, Write.documentsAt_append, before, ← List.singleton_append, Write.documentsAt_append,
    after]
  simp [Write.documentsAt, Write.documentAt]

/-- A request that has not put a document into the slot of its version has written nothing. -/
theorem Orderly.eq_nil (orderly : machine.Orderly details update entries)
    (vacant : Entry.documents details.slot entries = []) : entries = [] := by
  cases entries with
  | nil => rfl
  | cons entry later =>
    have unlicensed {written : Version} : written ∉ Entry.documents details.slot [] :=
      List.not_mem_nil
    have put : ∃ document, entry.write = .version details.slot document := by
      have licensed := orderly [] entry later rfl
      generalize entry.write = change at licensed
      cases licensed with
      | version => exact ⟨_, rfl⟩
      | mirror member | association member | editionPromotion member | publication member
      | datasetPromotion _ _ member => exact absurd member unlicensed
    obtain ⟨document, made⟩ := put
    refine absurd vacant (List.ne_nil_of_mem (Write.mem_documentsAt_iff.mpr ?_) (a := document))
    exact made ▸ List.mem_cons_self

/-- The writes for a version may be made, all of them or the first ones only. -/
theorem orderly_versionWrites {stored document : Version} {path : WritePath}
    (replaces : machine.Replaces details update site stored document)
    (begun : writes <+: site.catalog.versionWrites path details.slot document) :
    machine.Orderly details update (Entry.ofWrites site writes) := by
  refine orderly_nil.append_writes fun front change back split => ?_
  subst split
  rcases front with _ | ⟨first, front⟩
  · obtain ⟨rfl, -⟩ := List.cons_prefix_cons.mp begun
    exact .version rfl replaces
  · obtain ⟨rfl, mirrored⟩ := List.cons_prefix_cons.mp begun
    have member := mirrored.subset (List.mem_append_right front List.mem_cons_self)
    cases path with
    | static => cases member
    | generic =>
      obtain ⟨record, found, rfl⟩ := Catalog.eq_of_mem_mirrorWrites member
      refine .mirror ?_ found
      exact List.mem_append_right _ (Write.mem_documentsAt_iff.mpr List.mem_cons_self)

end Orderly

end Machine

/-! ### Custody -/

/-- The site may be met by somebody who has these entries and has the slot in custody. -/
structure Site.Shows (site : Site) (slot : VersionKey) (found : Option Version)
    (entries : List Entry) : Prop where
  filed : site.catalog.WellFiled
  content : site.catalog.versions.get? slot =
    Write.contentAfter found (Entry.documents slot entries)

/-- What was done at a site has made more entries, or as many. -/
def Site.Adds (site : Site) (entries : List Entry) (after : Site) (more : List Entry) : Prop :=
  ∃ writes, after.journal = site.journal ++ writes ∧ more = entries ++ Entry.ofWrites site writes

/-- The setting of somebody who has a slot in custody, told by their entries. Before every call the
site may have become any other that shows what they have put there. -/
def Program.Setting.inCustody {Call : Type} {Answer : Call → Type} (setting : Setting Answer Site)
    (slot : VersionKey) (found : Option Version) : Setting Answer (List Entry) where
  answers call entries answer more := ∃ site after, site.Shows slot found entries ∧
    setting.answers call site answer after ∧ site.Adds entries after more
  givesUp call entries more := ∃ site after, site.Shows slot found entries ∧
    setting.givesUp call site after ∧ site.Adds entries after more

/-- An action that is answered has recorded the first of its writes at most. -/
theorem Site.Carries.prefix_writes {site after : Site} {action : Action} {answer : action.Answer}
    {writes : List Write} (carried : site.Carries action answer after)
    (recorded : after.journal = site.journal ++ writes) : writes <+: site.writes action := by
  obtain ⟨made, begun, -, journal⟩ := (Site.Answers.act carried).made
  rw [List.append_cancel_left (recorded.symm.trans journal)]
  exact begun

/-- So has an action that is given up. -/
theorem Site.GivesUp.prefix_writes {site after : Site} {action : Action} {writes : List Write}
    (given : Site.GivesUp action site after) (recorded : after.journal = site.journal ++ writes) :
    writes <+: site.writes action := by
  obtain ⟨made, begun, rfl⟩ := given
  rw [List.append_cancel_left (recorded.symm.trans rfl)]
  exact begun

namespace Steps

open Program

variable {slot : VersionKey} {found : Option Version} {entries : List Entry}

/-- Steps that take only actions whose writes can be entered can be taken in custody. -/
theorem ensures_of_upholds {fine : Action → Prop} {kept : List Entry → Prop} {post : α → Prop}
    {steps : Steps α} (upholds : Upholds (fun _ _ => True) fine post steps)
    (enter : ∀ action site entries writes, fine action → kept entries →
      writes <+: site.writes action → kept (entries ++ Entry.ofWrites site writes))
    (here : kept entries) :
    Ensures (disturbed.inCustody slot found)
      (fun outcome last => kept last ∧ ∀ result, outcome = some result → post result) steps
      entries := by
  refine upholds.ensures ?_ ?_ here
  · rintro action entries answer more fine kept ⟨site, after, -, carried, writes, recorded, rfl⟩
    exact ⟨trivial, enter action site entries writes fine kept (carried.prefix_writes recorded)⟩
  · rintro action entries more fine kept ⟨site, after, -, given, writes, recorded, rfl⟩
    exact enter action site entries writes fine kept (given.prefix_writes recorded)

/-- Steps that begin with a call on the store end as required in custody if they do so when the call
is given up midway, when it fails, and when it succeeds. -/
theorem ensures_store_andThen_inCustody {post : Option (Result β) → List Entry → Prop}
    {call : StoreCall} {next : call.Value → Steps (Result β)}
    (early : post none entries)
    (given : ∀ (site : Site) writes, site.Shows slot found entries →
      writes <+: call.writes site.now site.catalog →
        post none (entries ++ Entry.ofWrites site writes))
    (failed : ∀ error, post (some (.error error)) entries)
    (answered : ∀ (site : Site) value, site.Shows slot found entries →
      (site.catalog.perform site.now call).1 = .ok value →
        Ensures (disturbed.inCustody slot found) post (next value)
          (entries ++ Entry.ofWrites site (call.writes site.now site.catalog))) :
    Ensures (disturbed.inCustody slot found) post ((store call).andThen next) entries := by
  have failedHere (site : Site) (error : CatalogError) :
      post (some (.error error)) (entries ++ Entry.ofWrites site []) := by
    rw [show entries ++ Entry.ofWrites site [] = entries from List.append_nil _]
    exact failed error
  refine ⟨early, ?_, ?_⟩
  · rintro more ⟨site, after, shows, gaveUp, writes, recorded, rfl⟩
    exact given site writes shows (gaveUp.prefix_writes recorded)
  · rintro answer more ⟨site, after, shows, carried, writes, recorded, rfl⟩
    cases carried with
    | failed _ error =>
      have nothing : writes = [] := List.self_eq_append_right.mp recorded
      rw [nothing]
      exact failedHere site error
    | served =>
      have made : writes = call.writes site.now site.catalog :=
        List.append_cancel_left recorded.symm
      show Ensures _ post (andThen (.done (site.store call).1) next) _
      cases answer : (site.store call).1 with
      | error error =>
        rw [made, Catalog.writes_eq_nil_of_error answer]
        exact failedHere site error
      | ok value =>
        rw [made]
        exact answered site value shows answer

/-- Steps that begin with a call that only reads end as required in custody if they go on so with
whatever was read. -/
theorem ensures_read_andThen {post : Option (Result β) → List Entry → Prop} {call : StoreCall}
    {next : call.Value → Steps (Result β)} (reads : ∀ now catalog, call.writes now catalog = [])
    (early : post none entries) (failed : ∀ error, post (some (.error error)) entries)
    (two : ∀ (site : Site) value, site.Shows slot found entries →
      (site.catalog.perform site.now call).1 = .ok value →
        Ensures (disturbed.inCustody slot found) post (next value) entries) :
    Ensures (disturbed.inCustody slot found) post ((store call).andThen next) entries := by
  have unchanged (site : Site) : entries ++ Entry.ofWrites site [] = entries := List.append_nil _
  refine ensures_store_andThen_inCustody early ?_ failed ?_
  · intro site writes _ begun
    rw [reads] at begun
    rw [List.prefix_nil.mp begun, unchanged]
    exact early
  · intro site value shows answered
    rw [reads, unchanged]
    exact two site value shows answered

theorem ensures_pause {post : Option α → List Entry → Prop} {next : Unit → Steps α}
    (early : post none entries)
    (two : Ensures (disturbed.inCustody slot found) post (next ()) entries) :
    Ensures (disturbed.inCustody slot found) post (pause.bind next) entries := by
  have unchanged (site : Site) {writes : List Write} (begun : writes <+: site.writes .pause) :
      entries ++ Entry.ofWrites site writes = entries := by
    rw [List.prefix_nil.mp begun]
    exact List.append_nil _
  refine ⟨early, ?_, ?_⟩
  · rintro more ⟨site, after, -, given, writes, recorded, rfl⟩
    rw [unchanged site (given.prefix_writes recorded)]
    exact early
  · rintro ⟨⟩ more ⟨site, after, -, carried, writes, recorded, rfl⟩
    rw [unchanged site (carried.prefix_writes recorded)]
    exact two

end Steps

/-! ### The write of the version -/

namespace Machine

open Program

variable {machine : Machine} {details : VersionDetails} {update : Version}
  {options : AmendOptions} {dataset : Dataset} {current : Version}

/-- How the write of a version may end: what was written was written in its turn, and when it
succeeded it was the candidate, which is answered with the tag under which it is stored. -/
structure Persists (machine : Machine) (details : VersionDetails) (update current : Version)
    (outcome : Option (Result Version)) (entries : List Entry) : Prop where
  orderly : machine.Orderly details update entries
  done (persisted : Version) : outcome = some (.ok persisted) →
    ∃ document now, Entry.documents details.slot entries = [document] ∧
      document = Version.stamp now current (Version.combine current update) ∧
      persisted = { Version.combine current update with eTag := document.eTag }

theorem persists_nil {outcome : Option (Result Version)}
    (unsuccessful : ∀ version, outcome ≠ some (.ok version)) :
    machine.Persists details update current outcome [] :=
  ⟨orderly_nil, fun version same => absurd same (unsuccessful version)⟩

section Persisting

variable (own : current.key = details.slot)
  (allowed : TransitionContext.checkMove machine.transitions current
    (Version.combine current update) = .ok ())

/-- Reading the version again finds what was found before. -/
theorem ensures_refresh_inCustody :
    Ensures (Steps.disturbed.inCustody details.slot (some current))
      (fun outcome entries => entries = [] ∧ ∀ pair, outcome = some (.ok pair) →
        pair = (current, Version.combine current update))
      (machine.context details update options dataset current).refresh [] := by
  refine Steps.ensures_read_andThen (fun _ _ => rfl) ⟨rfl, fun _ => nofun⟩
    (fun _ => ⟨rfl, fun _ => nofun⟩) ?_
  intro site version shows answered
  have same : version = current :=
    Option.some_inj.mp ((Catalog.getVersion_eq_ok_iff.mp answered).1.symm.trans shows.content)
  refine Steps.ensures_require (fun _ => ⟨rfl, fun _ => nofun⟩) fun checked _ => ⟨rfl, ?_⟩
  rintro pair ⟨⟩
  rw [same]
  rfl

include own allowed

/-- An attempt to write the candidate over the document that was found puts it into the slot, or
makes no entry when it fails. -/
theorem ensures_write_inCustody (path : WritePath) :
    Ensures (Steps.disturbed.inCustody details.slot (some current))
      (fun outcome entries => machine.Persists details update current outcome entries ∧
        ∀ error, outcome = some (.error error) → entries = [])
      ((machine.context details update options dataset current).write path current
        (Version.combine current update)) [] := by
  let candidate := Version.combine current update
  let selector := (machine.context details update options dataset current).writeSelector current
  let call := StoreCall.updateVersion path current candidate selector
  have replaces {site : Site} (shows : site.Shows details.slot (some current) []) :
      machine.Replaces details update site current (Version.stamp site.now current candidate) :=
    ⟨own, shows.content, allowed, rfl⟩
  have planned {site : Site} (shows : site.Shows details.slot (some current) []) :
      call.writes site.now site.catalog =
        if ETag.admits selector current.eTag then
          site.catalog.versionWrites path details.slot (Version.stamp site.now current candidate)
        else [] := by
    have found : site.catalog.versions.get? current.key = some current := own ▸ shows.content
    rw [Catalog.writes_updateVersion_of_found found, own]
  have orderly {site : Site} {writes : List Write}
      (shows : site.Shows details.slot (some current) [])
      (begun : writes <+: call.writes site.now site.catalog) :
      machine.Orderly details update (Entry.ofWrites site writes) := by
    rw [planned shows] at begun
    by_cases admitted : ETag.admits selector current.eTag = true
    · rw [if_pos admitted] at begun
      exact orderly_versionWrites (replaces shows) begun
    · rw [if_neg admitted] at begun
      rw [List.prefix_nil.mp begun]
      exact orderly_nil
  refine Steps.ensures_store_andThen_inCustody ⟨persists_nil fun _ => nofun, nofun⟩ ?_ ?_ ?_
  · intro site writes shows begun
    exact ⟨⟨orderly shows begun, fun _ => nofun⟩, nofun⟩
  · intro error
    exact ⟨persists_nil fun _ => nofun, fun _ _ => rfl⟩
  · intro site tag shows answered
    refine ⟨⟨orderly shows List.prefix_rfl, fun persisted same => ?_⟩, nofun⟩
    cases same
    have found : site.catalog.versions.get? current.key = some current := own ▸ shows.content
    change (Catalog.updateVersion _ _ _ _ _ _).1 = _ at answered
    rw [Catalog.updateVersion_of_found found] at answered
    by_cases admitted : ETag.admits selector current.eTag = true
    · rw [if_pos admitted] at answered
      cases answered
      refine ⟨_, site.now, ?_, rfl, rfl⟩
      show Entry.documents details.slot (Entry.ofWrites site (call.writes _ _)) = _
      rw [planned shows, if_pos admitted, Entry.documents_ofWrites,
        Write.documentsAt_versionWrites]
    · rw [if_neg admitted] at answered
      cases answered

/-- The candidate is written once at most, also when the first attempt fails. -/
theorem ensures_persist_inCustody (path : WritePath) :
    Ensures (Steps.disturbed.inCustody details.slot (some current))
      (machine.Persists details update current)
      ((machine.context details update options dataset current).persist path) [] := by
  refine Ensures.bind ((ensures_write_inCustody own allowed path).mono ?_)
  rintro outcome entries ⟨persists, failed⟩
  rcases outcome with _ | error | persisted
  · exact persists
  · rw [failed error rfl]
    have failedHere {error : CatalogError} :
        machine.Persists details update current (some (.error error)) [] :=
      persists_nil (by simp)
    by_cases retried : error.isRetryable = true
    · simp only [thenEnsures, if_pos retried]
      refine Steps.ensures_pause (persists_nil (by simp))
        (Ensures.bind (ensures_refresh_inCustody.mono ?_))
      rintro outcome entries ⟨rfl, read⟩
      rcases outcome with _ | error | pair
      · exact persists_nil (by simp)
      · exact failedHere
      · rw [read pair rfl]
        exact (ensures_write_inCustody own allowed path).mono fun _ _ written => written.1
    · simp only [thenEnsures, if_neg retried]
      exact failedHere
  · exact persists

end Persisting

/-! ### The writes to the parents -/

/-- What a handler does for the parents is licensed by the document that was written. -/
theorem licenses_of_mayTake {handler : Handler} {action : Action} {persisted written : Version}
    {tag : String} {now : Timestamp} {site : Site} {change : Write}
    (candidate : persisted = { Version.combine current update with eTag := tag })
    (stamped : written = Version.stamp now current (Version.combine current update))
    (chosen : machine.handler? written = some handler)
    (may : handler.MayTake (machine.context details update options dataset current) persisted
      action)
    (member : change ∈ site.writes action) :
    machine.Licenses details update [written] site change := by
  have here : written ∈ [written] := List.mem_singleton.mpr rfl
  cases may with
  | readEdition | readType | generate | now => cases member
  | promoteEdition promoted =>
    have link : persisted.versionLink = written.versionLink := by
      subst candidate stamped
      rfl
    rw [List.mem_singleton.mp member]
    exact .editionPromotion here chosen (link ▸ promoted)
  | publishInstance =>
    obtain ⟨record, found, rfl⟩ := Catalog.eq_of_mem_publishWrites member
    have id : persisted.id = written.id := by
      subst candidate stamped
      rfl
    rw [id] at found ⊢
    exact .publication here chosen found
  | promoteDataset now =>
    have same : dataset.promote now persisted = dataset.promote now written := by
      subst candidate stamped
      rfl
    rw [List.mem_singleton.mp member]
    show machine.Licenses details update [written] site
      (.dataset details.datasetId { dataset.promote now persisted with id := details.datasetId })
    rw [same]
    exact .datasetPromotion dataset now here chosen
  | associate =>
    have same (dataset : Dataset) :
        dataset.associateNext details.datasetId site.now .associated persisted =
          dataset.associateNext details.datasetId site.now .associated written := by
      subst candidate stamped
      rfl
    change change ∈ StoreCall.writes site.now site.catalog (.associate details.datasetId _ _)
      at member
    unfold StoreCall.writes at member
    cases found : site.catalog.datasets.get? details.datasetId with
    | none => simp [found] at member
    | some dataset =>
      simp only [found, List.mem_singleton] at member
      rw [member, same]
      exact .association here chosen found

/-- A move makes its entries in their turn, and puts the version into its slot when it succeeds. -/
theorem ensures_move_inCustody (own : current.key = details.slot) :
    Ensures (Steps.disturbed.inCustody details.slot (some current))
      (machine.Conforms details update) (machine.move details update options dataset current)
      [] := by
  have failed {error : CatalogError} :
      machine.Conforms details update (some (.error error)) [] := ⟨orderly_nil, fun _ => nofun⟩
  refine Steps.ensures_require (fun _ => failed) fun checked allowed => ?_
  obtain ⟨valid, target, type, state, -⟩ := TransitionContext.checkMove_eq_ok_iff.mp allowed
  simp only [state]
  rw [Handler.steps_eq _ _ valid]
  refine Steps.ensures_require (fun _ => failed) fun type _ => ?_
  refine Ensures.bind ((ensures_persist_inCustody own allowed (.forStatic type.isStatic)).mono ?_)
  intro outcome entries persists
  rcases outcome with _ | error | persisted
  · exact ⟨persists.orderly, fun _ => nofun⟩
  · exact ⟨persists.orderly, fun _ => nofun⟩
  obtain ⟨written, now, documents, stamped, candidate⟩ := persists.done persisted rfl
  have chosen : machine.handler? written = some (machine.handlers.handler target) := by
    rw [stamped]
    exact congrArg (Option.map _) state
  -- From here on the documents of the request are this one, as the parents are no versions.
  let kept (entries : List Entry) : Prop := machine.Orderly details update entries ∧
    Entry.documents details.slot entries = [written]
  have enter (action : Action) (site : Site) (entries : List Entry) (writes : List Write)
      (may : (machine.handlers.handler target).MayTake
        (machine.context details update options dataset current) persisted action)
      (orderly : kept entries) (begun : writes <+: site.writes action) :
      kept (entries ++ Entry.ofWrites site writes) := by
    obtain ⟨orderly, documents⟩ := orderly
    have apart {front : List Write} (first : front <+: writes) :
        Write.documentsAt details.slot front = [] :=
      Write.documentsAt_eq_nil_iff.mpr fun document member =>
        may.isForParents.not_version_mem_writes (begun.subset (first.subset member))
    refine ⟨orderly.append_writes fun front change back split => ?_, ?_⟩
    · rw [documents, apart (split ▸ List.prefix_append _ _), List.append_nil]
      exact licenses_of_mayTake candidate stamped chosen may (begun.subset (by simp [split]))
    · rw [Entry.documents_append, documents, Entry.documents_ofWrites, apart List.prefix_rfl]
      rfl
  refine (Steps.ensures_of_upholds (Handler.assures_afterwards _ _ type persisted) enter
    ⟨persists.orderly, documents⟩).mono ?_
  rintro outcome entries ⟨⟨orderly, documents⟩, answers⟩
  refine ⟨orderly, fun version same => ⟨written, documents, ?_⟩⟩
  rw [answers _ same version rfl, candidate, stamped]
  rfl

/-- The steps under the lock make their entries in their turn, and put the version into its slot
when they succeed. -/
theorem ensures_locked_inCustody {found : Option Version} :
    Ensures (Steps.disturbed.inCustody details.slot found) (machine.Conforms details update)
      (machine.locked details update options) [] := by
  have early : machine.Conforms details update none [] := ⟨orderly_nil, fun _ => nofun⟩
  have failed (error : CatalogError) :
      machine.Conforms details update (some (.error error)) [] := ⟨orderly_nil, fun _ => nofun⟩
  refine Steps.ensures_read_andThen (fun _ _ => rfl) early failed ?_
  intro _ dataset _ _
  refine Steps.ensures_read_andThen (fun _ _ => rfl) early failed ?_
  intro _ _ _ _
  refine Steps.ensures_read_andThen (fun _ _ => rfl) early failed ?_
  intro site current shows answered
  have content : some current = found :=
    (Catalog.getVersion_eq_ok_iff.mp answered).1.symm.trans shows.content
  rw [← content]
  exact ensures_move_inCustody (shows.filed _ _ (Catalog.getVersion_eq_ok_iff.mp answered).1)

end Machine

/-! ### Requests -/

namespace Request

open Program

variable {slot : VersionKey} {found : Option Version}

/-- A request carries the actions of its steps out in custody as it does elsewhere. -/
theorem Relays.inCustody {inner : Setting Action.Answer Site} {outer : Setting Call.Answer Site}
    (relays : Relays inner outer) :
    Relays (inner.inCustody slot found) (outer.inCustody slot found) where
  act := by
    rintro action answer entries more ⟨site, after, shows, answered, adds⟩
    exact ⟨site, after, shows, relays.act answered, adds⟩
  inTime := by
    rintro expiry action answer entries more ⟨site, after, shows, answered, adds⟩
    exact ⟨site, after, shows, relays.inTime answered, adds⟩
  late := by
    rintro expiry action entries more ⟨site, after, shows, answered, adds⟩
    exact ⟨site, after, shows, relays.late answered, adds⟩
  whole := by
    rintro call entries more ⟨site, after, -, given, -⟩
    exact relays.whole call site after given

/-- A request that begins with a call that writes nothing goes on with the same entries. -/
theorem ensures_call_bind_inCustody {call : Call} {next : call.Answer → Request α}
    {post : Option α → List Entry → Prop} {entries : List Entry}
    (silent : ∀ site : Site, site.callWrites call = []) (early : post none entries)
    (two : ∀ answer, Ensures (disturbed.inCustody slot found) post (next answer) entries) :
    Ensures (disturbed.inCustody slot found) post ((Request.call call).bind next) entries := by
  refine ⟨early, fun _ ⟨_, _, _, given, _⟩ => given.elim, ?_⟩
  rintro answer more ⟨site, after, -, answered, writes, recorded, rfl⟩
  obtain ⟨made, begun, -, journal⟩ := answered.made
  rw [silent, List.prefix_nil] at begun
  have nothing : writes = [] := List.append_cancel_left (recorded.symm.trans (begun ▸ journal))
  rw [nothing]
  show Ensures _ post (next answer) (entries ++ [])
  rw [List.append_nil]
  exact two answer

end Request

namespace Machine

open Program

variable {machine : Machine} {details : VersionDetails} {update : Version}
  {options : AmendOptions} {found : Option Version}

/-- With a deadline or without one, a request under the lock makes its entries in their turn, and
puts the version into its slot when it succeeds. -/
theorem ensures_lockedInTime_inCustody :
    Ensures (Request.disturbed.inCustody details.slot found) (machine.Conforms details update)
      (machine.lockedInTime details update options) [] := by
  have relays : Request.Relays (Steps.disturbed.inCustody details.slot found)
      (Request.disturbed.inCustody details.slot found) := Request.relays_disturbed.inCustody
  unfold lockedInTime
  cases machine.deadline with
  | none => exact Request.ensures_ofSteps relays ensures_locked_inCustody
  | some deadline =>
    refine Request.ensures_call_bind_inCustody (fun _ => rfl) ⟨orderly_nil, fun _ => nofun⟩
      fun start => Ensures.bind ((Request.ensures_before relays _ ensures_locked_inCustody).mono ?_)
    intro outcome entries conforms
    rcases outcome with _ | _ | result
    · exact conforms
    · exact ⟨conforms.orderly, fun _ => nofun⟩
    · exact conforms

end Machine

end ReleaseCatalog
