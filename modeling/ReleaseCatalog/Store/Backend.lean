/-
The stores that a catalog can be kept in, behind one interface.
-/

import ReleaseCatalog.Store.Probe
import ReleaseCatalog.Store.Tables

namespace ReleaseCatalog

/-- A store: in memory, in memory behind a probe, or in the tables of a database. -/
inductive Backend where
  | memory (catalog : Catalog)
  | probed (probe : Probe)
  | tables (database : Tables)

namespace Backend

instance : Inhabited Backend := ⟨.memory {}⟩

/-- The answer to a call, and the store after it. -/
def perform (now : Timestamp) (backend : Backend) (call : StoreCall) : call.Answer × Backend :=
  match backend with
  | .memory catalog =>
    let (answer, after) := catalog.perform now call
    (answer, .memory after)
  | .probed probe =>
    let (answer, after) := probe.perform now call
    (answer, .probed after)
  | .tables database =>
    let (answer, after) := database.perform now call
    (answer, .tables after)

/-- The answer to a call that a probe does not see. -/
def performUnseen (now : Timestamp) (backend : Backend) (call : StoreCall) :
    call.Answer × Backend :=
  match backend with
  | .probed probe =>
    let (answer, inner) := probe.inner.perform now call
    (answer, .probed { probe with inner := inner })
  | other => other.perform now call

/-- Tells the store that one of its lock methods is called. A probe counts the call and may make
it fail; the other stores have nothing to do with it. -/
def announce (backend : Backend) (method : StoreMethod) : Option CatalogError × Backend :=
  match backend with
  | .probed probe =>
    let (error, recorded) := probe.record method
    (error, .probed recorded)
  | other => (none, other)

/-- The probe in front of the store, if there is one. -/
def probe? : Backend → Option Probe
  | .probed probe => some probe
  | _ => none

end Backend

end ReleaseCatalog
