/-
Whether a candidate is complete enough for the state that it is to enter. All missing fields are
reported together, in a fixed order.
-/

import ReleaseCatalog.Version.Basic

namespace ReleaseCatalog

/-- A field that a version must carry in the states that require release metadata. -/
inductive MandatoryField where
  | releaseDate
  | href (format : Format)
  | size (format : Format)
  deriving DecidableEq, Repr

namespace MandatoryField

/-- The name of a field in messages. -/
def name : MandatoryField → String
  | releaseDate => "release_date"
  | href format => "downloads." ++ format.name ++ ".href"
  | size format => "downloads." ++ format.name ++ ".size"

end MandatoryField

namespace Version

/-- What a download in a format lacks: its location, then its size. -/
def missingOfDownload (format : Format) : Option Download → List MandatoryField
  | none => []
  | some download =>
    (if download.href.isEmpty then [.href format] else []) ++
    (if download.size.isEmpty then [.size format] else [])

/-- The mandatory fields that a version lacks: the release date first, then what each download
lacks in the order of the formats. -/
def missingFields (version : Version) : List MandatoryField :=
  (if version.releaseDate.isEmpty then [.releaseDate] else []) ++
  match version.downloads with
  | none => []
  | some downloads => downloads.listed.flatMap fun entry => missingOfDownload entry.1 entry.2

/-- The check of a candidate: it has a state, its type is known, and if the state requires release
metadata no mandatory field is missing. -/
def validate (candidate : Version) : Result Unit :=
  match candidate.state with
  | none => .error .missingState
  | some state =>
    match DatasetType.resolve? candidate.type with
    | none => .error .invalidDatasetType
    | some _ =>
      if state.requiresReleaseMetadata then
        match candidate.missingFields with
        | [] => .ok ()
        | missing => .error (.missingMandatoryFields (missing.map MandatoryField.name))
      else .ok ()

end Version

end ReleaseCatalog
