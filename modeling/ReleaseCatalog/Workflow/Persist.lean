/-
The write of a version that notices when it lost a race.

The write is conditioned on the tag of the document that the candidate was merged from, unless the
caller admits every document. If another writer came first the store answers with a conflict. The
version is then read again with the caller's selector, the caller's update is merged anew, and the
candidate is checked as the first one was; then the write is tried once more. A second conflict,
and any other error, is the caller's to deal with.
-/

import ReleaseCatalog.Identifiers
import ReleaseCatalog.Workflow.Action

namespace ReleaseCatalog

/-- All that is known about one move of one version. -/
structure TransitionContext where
  /-- The generators that may be asked for downloads. -/
  generators : GeneratorRegistry
  /-- The rules that the move was accepted under. -/
  transitions : TransitionTable
  details : VersionDetails
  /-- The dataset as it was read before the move. -/
  dataset : Dataset
  /-- The stored version that the candidate was merged from. -/
  current : Version
  /-- The merged and checked version to write. -/
  candidate : Version
  /-- The caller's update, kept for merging it again after a conflict. -/
  update : Version
  /-- The caller's selector. -/
  ifMatch : String
  /-- The caller says that downloads exist already. -/
  hasDownloads : Bool

namespace TransitionContext

/-- The selector of a write: the caller's if it admits every document, and otherwise the tag of
the document that the candidate was merged from. -/
def writeSelector (context : TransitionContext) (current : Version) : String :=
  if context.ifMatch == ETag.any then ETag.any else current.eTag

/-- One attempt to write a candidate; it answers the candidate with its new tag. -/
def write (context : TransitionContext) (path : WritePath) (current candidate : Version) :
    Steps (Result Version) :=
  (Steps.store (.updateVersion path current candidate (context.writeSelector current))).andThen
    fun eTag => .done (.ok { candidate with eTag := eTag })

/-- The checks of a candidate against the document that it was merged from: it is complete, and
the rules allow the move. -/
def checkMove (table : TransitionTable) (current candidate : Version) : Result Unit := do
  candidate.validate
  match candidate.state with
  | none => .error .missingState
  | some target =>
    let type ← candidate.resolvedType
    table.check current.state target type

/-- Reads the version again and merges the caller's update into it. -/
def refresh (context : TransitionContext) : Steps (Result (Version × Version)) :=
  let details := context.details
  (Steps.store
      (.getVersion details.datasetId details.edition details.number context.ifMatch)).andThen
    fun current =>
      let candidate := Version.combine current context.update
      Steps.require (checkMove context.transitions current candidate) fun () =>
        .done (.ok (current, candidate))

/-- Writes the candidate, with one more attempt after a conflict. -/
def persist (context : TransitionContext) (path : WritePath) : Steps (Result Version) :=
  (context.write path context.current context.candidate).bind fun
    | .ok persisted => .done (.ok persisted)
    | .error error =>
      if error.isRetryable then
        Steps.pause.bind fun () =>
          context.refresh.andThen fun (current, candidate) => context.write path current candidate
      else .done (.error error)

end TransitionContext

end ReleaseCatalog
