/-
A lease is a lock that a request holds and has to give back. A request that is dropped while it
waits cannot give its lock back itself, so that this is done for it, by the kind and the token that
the lease has kept.
-/

import ReleaseCatalog.Workflow.Action

namespace ReleaseCatalog

/-- A lock that a request holds, of which kind it is and by which token it is known. -/
structure Lease where
  kind : LockKind
  token : LockToken
  deriving DecidableEq, Repr

/-- The lease that a token becomes when it was taken for a kind of lock. -/
def Lease.ofToken (kind : Option LockKind) (token : LockToken) : Option Lease :=
  kind.map fun kind => ⟨kind, token⟩

end ReleaseCatalog
