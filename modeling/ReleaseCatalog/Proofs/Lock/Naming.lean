/-
Which lock a request takes. It asks for no lock but the one whose key is the name of its version, it
asks for that one whenever it is not rejected at once, and it gives back only what it was given. The
stored document of the version says in its own fields which lock that is, and it does not matter how
the request has written the number.
-/

import ReleaseCatalog.Proofs.Identifiers.ResourceKey
import ReleaseCatalog.Proofs.Lock.Machines
import ReleaseCatalog.Proofs.Program.Conduct
import ReleaseCatalog.Proofs.Store.Filing

namespace ReleaseCatalog

open Program (Abides Conduct Event Runs)

/-! ### Locks that may be asked for -/

/-- A request may ask for the lock of the key, if there is one for it, and give back what it was
given. -/
def Request.oneLock (key? : Option String) : Conduct Call.Answer (List LockToken) where
  fine tokens call := match call with
    | .acquire _ key | .hold key => key? = some key
    | .release _ token => token ∈ tokens
    | .act _ | .actBefore _ _ | .instant => True
  after tokens call answer := match call, answer with
    | .acquire _ _, .ok token | .hold _, .ok token => token :: tokens
    | _, _ => tokens

namespace Request

variable {α : Type} {key? : Option String} {tokens : List LockToken}

/-- Calls that have nothing to do with locks give no tokens. -/
theorem after_oneLock {call : Call} (plain : call.isForLock = false) (answer : call.Answer) :
    (oneLock key?).after tokens call answer = tokens := by
  cases call with
  | act | actBefore | instant => rfl
  | acquire | hold | release => cases plain

/-- A request that does nothing about locks has the tokens at its end that it had. -/
theorem Unlocked.abides {request : Request α} (unlocked : request.Unlocked) :
    Abides (oneLock key?) (fun _ later => later = tokens) request tokens := by
  induction request with
  | done result => rfl
  | step call next inductionHypothesis =>
    obtain ⟨plain, rest⟩ := unlocked
    constructor
    · cases call with
      | act | actBefore | instant => trivial
      | acquire | hold | release => cases plain
    · intro answer
      rw [after_oneLock plain]
      exact inductionHypothesis answer (rest answer trivial)

end Request

namespace Amendment

variable {amendment : Amendment} {details : VersionDetails} {key : String}

/-- The key of the lock that a request is for, if its identifiers name a version. -/
def lockKey? (amendment : Amendment) : Option String :=
  amendment.identifiers.resolve.toOption.map VersionDetails.resourceKey

theorem lockKey?_eq_some_iff :
    amendment.lockKey? = some key ↔
      ∃ details, amendment.identifiers.resolve = .ok details ∧ details.resourceKey = key := by
  unfold lockKey?
  cases amendment.identifiers.resolve <;> simp [Except.toOption]

/-- The steps under the lock take no other, and then the token is given back. -/
theorem abides_underLock (kind : LockKind) (attempt : Result LockToken) {tokens : List LockToken}
    (given : ∀ token, attempt = .ok token → token ∈ tokens) :
    Abides (Request.oneLock amendment.lockKey?) (fun _ _ => True)
      (amendment.underLock details kind attempt) tokens := by
  cases attempt with
  | error error => trivial
  | ok token =>
    refine (Program.abides_bind _ _).mpr ?_
    have unlocked := amendment.machine.unlocked_lockedInTime details amendment.update
      amendment.options
    refine unlocked.abides.mono fun result later same => ?_
    exact ⟨same ▸ given token rfl, fun _ => trivial⟩

/-- A request asks for the lock of the version that it names, and for no other. -/
theorem abides_oneLock :
    Abides (Request.oneLock amendment.lockKey?) (fun _ _ => True) amendment.request [] := by
  cases resolved : amendment.identifiers.resolve with
  | error error =>
    have rejected : amendment.request = .done (.error error) := by
      unfold request Machine.amend
      rw [resolved]
    rw [rejected]
    trivial
  | ok details =>
    have named (other : VersionDetails) (same : amendment.identifiers.resolve = .ok other) :
        other = details := (Except.ok.inj (resolved.symm.trans same)).symm
    have own : amendment.lockKey? = some details.resourceKey :=
      lockKey?_eq_some_iff.mpr ⟨details, resolved, rfl⟩
    rcases request_cases named with ⟨error, rejected⟩ | looks
    · rw [rejected]
      trivial
    · rw [looks]
      refine ⟨trivial, fun type => ⟨own, fun attempt => ?_⟩⟩
      refine abides_underLock _ attempt fun token got => ?_
      rw [got]
      exact List.mem_cons_self

end Amendment

/-! ### Locks that are asked for -/

namespace LockDeed

/-- The key of a lock that was asked for. -/
def key? : LockDeed → Option String
  | asked _ key _ | held key _ => some key
  | gaveBack _ _ => none

/-- The keys of the locks that a request has asked for, one after another. -/
def keys (events : List (Event Call.Answer Site)) : List String :=
  (deeds events).filterMap key?

/-- A lock was asked for by a call for it. -/
theorem exists_of_mem_keys {events : List (Event Call.Answer Site)} {key : String}
    (member : key ∈ keys events) :
    ∃ event ∈ events, (∃ kind, event.call = .acquire kind key) ∨ event.call = .hold key := by
  obtain ⟨deed, done, named⟩ := List.mem_filterMap.mp member
  obtain ⟨⟨call, answer, before, after⟩, made, told⟩ := List.mem_filterMap.mp done
  refine ⟨_, made, ?_⟩
  cases call with
  | acquire kind other =>
    cases told
    cases named
    exact .inl ⟨kind, rfl⟩
  | hold other =>
    cases told
    cases named
    exact .inr rfl
  | release kind token =>
    cases told
    cases named
  | act | actBefore | instant => cases told

end LockDeed

namespace Amendment

open LockDeed (keys)

variable {amendment : Amendment} {outside : Site → Site → Prop} {site last : Site}
  {events : List (Event Call.Answer Site)} {outcome : Option (Result Version)} {key : String}

/-- Every lock that a request asks for is the one of the version that it names. -/
theorem lockKey?_of_mem_keys
    (run : Runs (Request.disturbedBy outside) amendment.request site events outcome last)
    (member : key ∈ keys events) : amendment.lockKey? = some key := by
  obtain ⟨event, made, asks⟩ := LockDeed.exists_of_mem_keys member
  obtain ⟨earlier, later, split⟩ := List.append_of_mem made
  have fine := (run.abides abides_oneLock).1 earlier event later split
  rcases asks with ⟨kind, asked⟩ | asked <;>
    · rw [asked] at fine
      exact fine

/-- A request that is not rejected at once asks for one lock before it comes to its end. -/
theorem keys_of_finished {result : Result Version}
    (run : Runs (Request.disturbedBy outside) amendment.request site events (some result) last) :
    (∃ error, amendment.request = .done (.error error)) ∨
      ∃ key, amendment.lockKey? = some key ∧ keys events = [key] := by
  cases resolved : amendment.identifiers.resolve with
  | error error =>
    left
    unfold request Machine.amend
    rw [resolved]
    exact ⟨error, rfl⟩
  | ok details =>
    by_cases unknown : amendment.update.type ≠ "" ∧
        DatasetType.resolve? amendment.update.type = none
    · left
      unfold request Machine.amend
      simp only [resolved, if_pos unknown]
      exact ⟨_, rfl⟩
    · right
      have whole : amendment.request =
          amendment.machine.amendVersion details amendment.update amendment.options := by
        unfold request Machine.amend
        simp only [resolved, if_neg unknown]
      rw [whole] at run
      refine ⟨details.resourceKey, lockKey?_eq_some_iff.mpr ⟨details, resolved, rfl⟩, ?_⟩
      obtain ⟨kind, ⟨error, asked⟩ | ⟨token, balanced, -⟩⟩ := Machine.deeds_amendVersion run
      · rw [keys, asked]
        rfl
      · rw [keys, balanced]
        rfl

/-! ### The stored document -/

/-- A store has given out the document of a version that the request names: it has the name of the
lock that the request is for, however the request writes the number. -/
theorem eq_resource_of_stored {backend : Backend} (sound : backend.IsSound) {now : Timestamp}
    {slot : VersionKey} {selector : String} {version : Version}
    (found : (backend.perform now
      (.getVersion slot.datasetId slot.edition slot.number selector)).1 = .ok version)
    (dataset : amendment.identifiers.datasetId = slot.datasetId)
    (edition : amendment.identifiers.edition = slot.edition)
    (denotes : Denotes amendment.identifiers.version slot.number.toNat)
    (own : amendment.lockKey? = some key) : key = version.resource := by
  obtain ⟨details, named, rfl⟩ := lockKey?_eq_some_iff.mp own
  have number := VersionIdentifiers.number_of_denotes named denotes
  obtain ⟨-, -, _, -, rfl⟩ := VersionIdentifiers.resolve_eq_ok_iff.mp named
  refine (VersionDetails.resource_of_key ((sound.key_of_getVersion found).trans ?_)).symm
  rw [number, dataset, edition]

end Amendment

end ReleaseCatalog
