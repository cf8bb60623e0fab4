/-
A catalog in memory behind a probe. The probe counts the calls of each method, those that fail
included, and answers a call with the error at the front of the queue of its method, if there is
one, without passing the call on.
-/

import ReleaseCatalog.Store.Catalog

namespace ReleaseCatalog

/-- A catalog behind a probe. -/
structure Probe where
  inner : Catalog := {}
  calls : Collection StoreMethod Nat := {}
  failures : Collection StoreMethod (List CatalogError) := {}
  deriving Inhabited

namespace Probe

/-- The number of calls of a method since the counters were last reset. -/
def count (probe : Probe) (method : StoreMethod) : Nat :=
  (probe.calls.get? method).getD 0

/-- The locks asked for, of either kind. -/
def lockAcquires (probe : Probe) : Nat :=
  probe.count .acquireInstanceLock + probe.count .acquireVersionsLock

/-- The locks given back, of either kind. -/
def lockReleases (probe : Probe) : Nat :=
  probe.count .unlockInstance + probe.count .unlockVersions

/-- Sets all counters to zero. Failures that are queued stay. -/
def resetCalls (probe : Probe) : Probe :=
  { probe with calls := {} }

/-- The errors that are queued for a method. -/
def queued (probe : Probe) (method : StoreMethod) : List CatalogError :=
  (probe.failures.get? method).getD []

/-- Queues an error for a method, behind those that are queued already. -/
def pushFailure (probe : Probe) (method : StoreMethod) (error : CatalogError) : Probe :=
  { probe with failures := probe.failures.put method (probe.queued method ++ [error]) }

/-- Counts a call and takes the error that it is to fail with, if one is queued. -/
def record (probe : Probe) (method : StoreMethod) : Option CatalogError × Probe :=
  let counted := { probe with calls := probe.calls.put method (probe.count method + 1) }
  match probe.queued method with
  | [] => (none, counted)
  | error :: rest =>
    (some error, { counted with failures := counted.failures.put method rest })

/-- The answer to a call, and the probe after it. -/
def perform (now : Timestamp) (probe : Probe) (call : StoreCall) : call.Answer × Probe :=
  match probe.record call.method with
  | (some error, recorded) => (.error error, recorded)
  | (none, recorded) =>
    let (answer, inner) := recorded.inner.perform now call
    (answer, { recorded with inner := inner })

/-- A queued error stands behind those that were queued before. -/
theorem queued_pushFailure_self (probe : Probe) (method : StoreMethod) (error : CatalogError) :
    (probe.pushFailure method error).queued method = probe.queued method ++ [error] := by
  simp [pushFailure, queued, Collection.get?_put_self]

/-- Queueing an error for one method does not touch the others. -/
theorem queued_pushFailure_other (probe : Probe) {method other : StoreMethod}
    (differ : other ≠ method) (error : CatalogError) :
    (probe.pushFailure method error).queued other = probe.queued other := by
  simp [pushFailure, queued, Collection.get?_put_other _ differ]

/-- Every call of a method is counted, whether it is to fail or not. -/
theorem count_record_self (probe : Probe) (method : StoreMethod) :
    (probe.record method).2.count method = probe.count method + 1 := by
  unfold record
  cases probe.queued method <;> simp [count, Collection.get?_put_self]

/-- A call of one method is not counted for another. -/
theorem count_record_other (probe : Probe) {method other : StoreMethod} (differ : other ≠ method) :
    (probe.record method).2.count other = probe.count other := by
  unfold record
  cases probe.queued method <;> simp [count, Collection.get?_put_other _ differ]

/-- A call is to fail with the first of the failures that are queued for its method. -/
theorem fst_record (probe : Probe) (method : StoreMethod) :
    (probe.record method).1 = (probe.queued method).head? := by
  unfold record
  cases probe.queued method <;> rfl

/-- A failure is taken from the front of the queue of its method. -/
theorem queued_record_self (probe : Probe) (method : StoreMethod) :
    (probe.record method).2.queued method = (probe.queued method).tail := by
  unfold record
  cases queue : probe.queued method with
  | nil => exact queue
  | cons error rest => simp [queued, Collection.get?_put_self]

/-- Recording a call of one method does not touch the failures of the others. -/
theorem queued_record_other (probe : Probe) {method other : StoreMethod} (differ : other ≠ method) :
    (probe.record method).2.queued other = probe.queued other := by
  unfold record
  cases probe.queued method with
  | nil => rfl
  | cons error rest => simp [queued, Collection.get?_put_other _ differ]

/-- Recording a call does not touch the catalog behind the probe. -/
theorem inner_record (probe : Probe) (method : StoreMethod) :
    (probe.record method).2.inner = probe.inner := by
  unfold record
  cases probe.queued method <;> rfl

end Probe

end ReleaseCatalog
