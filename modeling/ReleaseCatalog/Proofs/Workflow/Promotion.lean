/-
The steps of a publication on the document of its edition. Linking and promoting need a link that
leads somewhere, and fail without one. A link that is missing is found out before anything is linked
or shown, but after a promotion has marked Next published: of all that a failed step could change it
changes this mark only, and never what the public sees.

Steps are taken one after another, each on what the one before has left, whether that one failed or
not. What is promised of a single step holds of each of them, since it is promised for every
document; and as long as no promotion succeeds, Current is the one with which they began.
-/

import ReleaseCatalog.ETag

namespace ReleaseCatalog

/-- The link is there, and it has a target. -/
def Link.Leads (link : Option Link) : Prop :=
  ∃ target, link = some target ∧ target.href.isEmpty = false

namespace Edition

/-- The half that is edited: Next, or an empty half if there is none. -/
def edited (edition : Edition) : EditionHalf :=
  edition.next.getD {}

variable (edition : Edition) (now : Timestamp) {link : Option Link} {target : Link}

/-! ### Linking and promoting -/

theorem publishLinks_of_leads (aimed : target.href.isEmpty = false) :
    edition.publishLinks (some target) =
      ({ edition with next := some (edition.edited.withLatestVersion target) }, .ok ()) := by
  simp only [publishLinks, aimed]
  rfl

theorem publishLinks_of_not_leads (lost : ¬Link.Leads link) :
    edition.publishLinks link = (edition, .error .missingVersionLink) := by
  cases link with
  | none => rfl
  | some target =>
    have empty : target.href.isEmpty = true :=
      Bool.of_not_eq_false fun aimed => lost ⟨target, rfl, aimed⟩
    rw [publishLinks, if_pos empty]

/-- Linking changes nothing of what the public sees. -/
theorem current_publishLinks (link : Option Link) :
    (edition.publishLinks link).1.current = edition.current := by
  by_cases leads : Link.Leads link
  · obtain ⟨target, rfl, aimed⟩ := leads
    rw [publishLinks_of_leads _ aimed]
  · rw [publishLinks_of_not_leads _ leads]

/-- An edition that is promoted with a link that has a target shows Next to everybody: marked
published, and pointed at the version. -/
theorem promote_of_leads (aimed : target.href.isEmpty = false) :
    let half := { edition.edited.withLatestVersion target with
      state := some .published
      lastUpdated := some now }
    edition.promote now (some target) =
      ({ edition with current := some half, next := some half }, .ok ()) := by
  simp only [promote, publishLinks_of_leads _ aimed]
  rfl

/-- A promotion without a link that leads somewhere fails when it has marked Next. -/
theorem promote_of_not_leads (lost : ¬Link.Leads link) :
    edition.promote now link =
      ({ edition with next := some { edition.edited with state := some .published } },
        .error .missingVersionLink) := by
  simp only [promote, publishLinks_of_not_leads _ lost]
  rfl

/-- An edition can be promoted exactly with a link that has a target. -/
theorem promote_eq_ok_iff : (edition.promote now link).2 = .ok () ↔ Link.Leads link := by
  by_cases leads : Link.Leads link
  · refine iff_of_true ?_ leads
    obtain ⟨target, rfl, aimed⟩ := leads
    rw [promote_of_leads _ _ aimed]
  · rw [promote_of_not_leads _ _ leads]
    exact iff_of_false nofun leads

/-! ### Steps -/

/-- A step on the document of an edition. -/
inductive Step where
  | publishLinks (link : Option Link)
  | promote (now : Timestamp) (link : Option Link)
  | stamp

namespace Step

/-- What a step makes of a document, and its answer. -/
def take (edition : Edition) : Step → Edition × Result Unit
  | publishLinks link => edition.publishLinks link
  | promote now link => edition.promote now link
  | stamp => (edition.stamp, .ok ())

/-- The step needs a link that leads somewhere, and has none. -/
def IsLost : Step → Prop
  | publishLinks link | promote _ link => ¬Link.Leads link
  | stamp => False

end Step

/-- A step that was taken, with the documents before and after it. -/
structure Taken where
  before : Edition
  step : Step
  answer : Result Unit
  after : Edition

/-- Steps are taken one after another, each on what the one before has left. -/
def takeAll (edition : Edition) : List Step → List Taken
  | [] => []
  | step :: rest =>
    let taken := step.take edition
    ⟨edition, step, taken.2, taken.1⟩ :: takeAll taken.1 rest

/-- What is promised of a step that was taken. -/
structure Taken.Conforms (taken : Taken) : Prop where
  /-- It fails exactly for want of a link. -/
  answer : taken.answer = .ok () ∧ ¬taken.step.IsLost ∨
    taken.answer = .error .missingVersionLink ∧ taken.step.IsLost
  /-- If linking fails nothing is changed. -/
  unlinked {link : Option Link} : taken.step = .publishLinks link → taken.answer ≠ .ok () →
    taken.after = taken.before
  /-- If promoting fails nothing is changed but the mark of the edited half. -/
  marked {now : Timestamp} {link : Option Link} : taken.step = .promote now link →
    taken.answer ≠ .ok () →
    taken.after =
      { taken.before with next := some { taken.before.edited with state := some .published } }
  /-- If promoting succeeds the edited half is shown: marked, dated, and pointed at the version. -/
  promoted {now : Timestamp} {link : Option Link} : taken.step = .promote now link →
    taken.answer = .ok () → ∃ half,
      taken.after = { taken.before with current := some half, next := some half } ∧
      half = { taken.before.edited with
        state := some .published
        links := some { taken.before.edited.links.getD {} with latestVersion := link }
        lastUpdated := some now }

/-- A step does what is promised of it, on every document. -/
theorem Step.conforms_take (step : Step) :
    Taken.Conforms ⟨edition, step, (step.take edition).2, (step.take edition).1⟩ := by
  cases step with
  | publishLinks link =>
    by_cases leads : Link.Leads link
    · obtain ⟨target, rfl, aimed⟩ := leads
      have linked := edition.publishLinks_of_leads aimed
      exact {
        answer := .inl ⟨congrArg Prod.snd linked, fun lost => lost ⟨target, rfl, aimed⟩⟩
        unlinked := fun _ failed => absurd (congrArg Prod.snd linked) failed
        marked := nofun
        promoted := nofun }
    · have refused := edition.publishLinks_of_not_leads leads
      exact {
        answer := .inr ⟨congrArg Prod.snd refused, leads⟩
        unlinked := fun _ _ => congrArg Prod.fst refused
        marked := nofun
        promoted := nofun }
  | promote now link =>
    by_cases leads : Link.Leads link
    · obtain ⟨target, rfl, aimed⟩ := leads
      have shown := edition.promote_of_leads now aimed
      exact {
        answer := .inl ⟨congrArg Prod.snd shown, fun lost => lost ⟨target, rfl, aimed⟩⟩
        unlinked := nofun
        marked := fun _ failed => absurd (congrArg Prod.snd shown) failed
        promoted := fun same _ => by
          cases same
          exact ⟨_, congrArg Prod.fst shown, rfl⟩ }
    · have refused := edition.promote_of_not_leads now leads
      exact {
        answer := .inr ⟨congrArg Prod.snd refused, leads⟩
        unlinked := nofun
        marked := fun _ _ => congrArg Prod.fst refused
        promoted := fun _ done => nomatch (congrArg Prod.snd refused).symm.trans done }
  | stamp => exact ⟨.inl ⟨rfl, not_false⟩, nofun, nofun, nofun⟩

/-- Only a promotion that succeeds changes what the public sees. -/
theorem Step.current_take (step : Step)
    (unpromoted : ∀ now link, step = .promote now link → ¬Link.Leads link) :
    (step.take edition).1.current = edition.current := by
  cases step with
  | publishLinks link => exact edition.current_publishLinks link
  | promote now link =>
    show (edition.promote now link).1.current = edition.current
    rw [edition.promote_of_not_leads now (unpromoted now link rfl)]
  | stamp => rfl

/-! ### Sequences of steps -/

theorem conforms_of_mem_takeAll {steps : List Step} {taken : Taken}
    (member : taken ∈ edition.takeAll steps) : taken.Conforms := by
  induction steps generalizing edition with
  | nil => cases member
  | cons step rest inductionHypothesis =>
    rcases List.mem_cons.mp member with rfl | later
    · exact step.conforms_take edition
    · exact inductionHypothesis _ later

theorem current_of_mem_takeAll {steps : List Step}
    (unpromoted : ∀ now link, .promote now link ∈ steps → ¬Link.Leads link) {taken : Taken}
    (member : taken ∈ edition.takeAll steps) : taken.after.current = edition.current := by
  induction steps generalizing edition with
  | nil => cases member
  | cons step rest inductionHypothesis =>
    have kept : (step.take edition).1.current = edition.current :=
      step.current_take edition fun now link same =>
        unpromoted now link (same ▸ List.mem_cons_self)
    have lost (now : Timestamp) (link : Option Link) (there : .promote now link ∈ rest) :
        ¬Link.Leads link := unpromoted now link (List.mem_cons_of_mem _ there)
    rcases List.mem_cons.mp member with rfl | later
    · exact kept
    · exact (inductionHypothesis _ lost later).trans kept

/-- Of all steps that are taken one after another, linking and promoting fail exactly for want of a
link that leads somewhere. A failed step changes nothing but, if it is a promotion, the mark of the
edited half; a promotion that succeeds shows that half, pointed at the version. And as long as no
promotion succeeds the public sees what it saw. -/
theorem failed_steps_only_mark (steps : List Step) :
    (∀ taken ∈ edition.takeAll steps, taken.Conforms) ∧
      ((∀ now link, .promote now link ∈ steps → ¬Link.Leads link) →
        ∀ taken ∈ edition.takeAll steps, taken.after.current = edition.current) :=
  ⟨fun _ member => edition.conforms_of_mem_takeAll member,
    fun unpromoted _ member => edition.current_of_mem_takeAll unpromoted member⟩

/-- An edition whose next version has no link yet. -/
def unlinkedSample : Edition where
  id := "time-series"
  next := some { id := "time-series", edition := "time-series", state := some .editionConfirmed }

/-- Without a link nothing is shown of an edition, whatever is tried in between. -/
theorem failed_steps_only_mark_sample :
    let steps : List Step :=
      [.publishLinks none, .promote .sample (some { id := "2" }), .stamp, .promote .sample none]
    (∀ now link, .promote now link ∈ steps → ¬Link.Leads link) ∧
      (∀ taken ∈ unlinkedSample.takeAll steps, taken.Conforms) ∧
      ∀ taken ∈ unlinkedSample.takeAll steps, taken.after.current = none := by
  intro steps
  have lost : ∀ now link, .promote now link ∈ steps → ¬Link.Leads link := by
    rintro now link member ⟨target, rfl, aimed⟩
    simp [steps] at member
    simp [member.2] at aimed
  exact ⟨lost, (failed_steps_only_mark unlinkedSample steps).1,
    (failed_steps_only_mark unlinkedSample steps).2 lost⟩

/-- A step that fails may change the document: a promotion without a link leaves its mark. -/
theorem failed_promotion_is_not_without_effect :
    ¬∀ taken ∈ unlinkedSample.takeAll [.promote .sample none],
      taken.answer ≠ .ok () → taken.after = taken.before := by
  intro unchanged
  have same := unchanged _ List.mem_cons_self nofun
  exact absurd same (by decide)

end Edition

end ReleaseCatalog
