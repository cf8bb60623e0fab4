/-
Versions in stores of every kind. A store begins empty, and after that calls are made to it, by
requests and by others; a probe in front of it sees them or does not, and is told in between of
attempts at locks, of failures and of counters to reset. However a store came about in this way,
what it gives out for a slot is the version of that slot, by its dataset, edition and number.
-/

import ReleaseCatalog.Proofs.Store.Probing
import ReleaseCatalog.Proofs.Store.Reads
import ReleaseCatalog.Proofs.Store.Refinement

namespace ReleaseCatalog.Backend

/-- A store that nobody has used. -/
def IsNew : Backend → Prop
  | memory catalog => catalog = {}
  | probed probe => probe.inner = {}
  | tables database => database = {}

/-- What can happen to a store. -/
inductive Step : Backend → Backend → Prop
  | called (now : Timestamp) (backend : Backend) (call : StoreCall) :
    Step backend (backend.perform now call).2
  | calledUnseen (now : Timestamp) (backend : Backend) (call : StoreCall) :
    Step backend (backend.performUnseen now call).2
  | announced (backend : Backend) (method : StoreMethod) :
    Step backend (backend.announce method).2
  /-- A probe is given other counters and other failures. -/
  | prepared {probe other : Probe} : other.inner = probe.inner →
    Step (.probed probe) (.probed other)

/-- What is in the store is right about itself. -/
def IsSound : Backend → Prop
  | memory catalog => catalog.IsSound
  | probed probe => probe.inner.IsSound
  | tables database => ∃ catalog, database.Holds catalog

variable {start backend after : Backend}

theorem IsNew.isSound (fresh : backend.IsNew) : backend.IsSound := by
  cases backend with
  | memory catalog =>
    obtain rfl : catalog = {} := fresh
    exact Catalog.isSound_empty
  | probed probe =>
    have empty : probe.inner = {} := fresh
    show probe.inner.IsSound
    exact empty ▸ Catalog.isSound_empty
  | tables database =>
    obtain rfl : database = {} := fresh
    exact ⟨_, Tables.holds_empty⟩

theorem IsSound.called (sound : backend.IsSound) (now : Timestamp) (call : StoreCall) :
    (backend.perform now call).2.IsSound := by
  cases backend with
  | memory catalog =>
    have inMemory : catalog.IsSound := sound
    exact inMemory.perform now call
  | probed probe =>
    have behind : probe.inner.IsSound := sound
    show (probe.perform now call).2.inner.IsSound
    cases queue : probe.queued call.method with
    | nil =>
      rw [Probe.perform_of_empty now queue]
      exact behind.perform now call
    | cons error rest =>
      rw [Probe.perform_of_queued now queue, Probe.inner_record]
      exact behind
  | tables database =>
    obtain ⟨catalog, holds⟩ := sound
    exact ⟨_, holds.perform now call⟩

/-- Whatever happens to a store, what is in it stays right about itself. -/
theorem IsSound.step (sound : backend.IsSound) (step : Step backend after) : after.IsSound := by
  cases step with
  | called now _ call => exact sound.called now call
  | calledUnseen now _ call =>
    cases backend with
    | memory | tables => exact sound.called now call
    | probed probe =>
      have behind : probe.inner.IsSound := sound
      exact behind.perform now call
  | announced _ method =>
    cases backend with
    | memory | tables => exact sound
    | probed probe =>
      show (probe.record method).2.inner.IsSound
      rw [Probe.inner_record]
      exact sound
  | prepared same =>
    show Catalog.IsSound _
    rw [same]
    exact sound

theorem IsSound.along (sound : start.IsSound) (steps : Relation.ReflTransGen Step start backend) :
    backend.IsSound := by
  induction steps with
  | refl => exact sound
  | tail _ step inductionHypothesis => exact inductionHypothesis.step step

/-- A version that is given out for a slot is the one of that slot. -/
theorem IsSound.key_of_getVersion (sound : backend.IsSound) {now : Timestamp} {slot : VersionKey}
    {selector : String} {version : Version}
    (found : (backend.perform now
      (.getVersion slot.datasetId slot.edition slot.number selector)).1 = .ok version) :
    version.key = slot := by
  have filed {catalog : Catalog} (sound : catalog.IsSound)
      (found : catalog.getVersion slot selector = .ok version) : version.key = slot :=
    sound.filed _ _ (Catalog.getVersion_eq_ok_iff.mp found).1
  cases backend with
  | memory catalog => exact filed sound found
  | probed probe =>
    change (probe.perform now _).1 = _ at found
    cases queue : probe.queued (StoreCall.getVersion slot.datasetId slot.edition slot.number
        selector).method with
    | nil =>
      rw [Probe.perform_of_empty now queue] at found
      exact filed sound found
    | cons error rest =>
      rw [Probe.perform_of_queued now queue] at found
      cases found
  | tables database =>
    obtain ⟨catalog, holds⟩ := sound
    exact filed holds.sound ((holds.getVersion slot selector).symm.trans found)

end ReleaseCatalog.Backend
