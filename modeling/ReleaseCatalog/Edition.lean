/-
Editions: named groups of versions of a dataset. Like datasets they are stored with a published
half, Current, and an edited one, Next. Publishing a version on an edition needs the link of the
version: without one, linking fails and leaves the document as it was, and promoting fails after it
has marked Next published.
-/

import ReleaseCatalog.Version.Codec

namespace ReleaseCatalog

/-- The links of one half of an edition. -/
structure EditionLinks where
  dataset : Option Link := none
  latestVersion : Option Link := none
  self : Option Link := none
  versions : Option Link := none
  deriving DecidableEq, Repr, Inhabited

/-- One half of an edition. -/
structure EditionHalf where
  id : String := ""
  edition : String := ""
  state : Option State := none
  links : Option EditionLinks := none
  lastUpdated : Option Timestamp := none
  deriving DecidableEq, Repr, Inhabited

/-- An edition as it is stored. -/
structure Edition where
  id : String := ""
  current : Option EditionHalf := none
  next : Option EditionHalf := none
  eTag : String := ""
  deriving DecidableEq, Repr, Inhabited

namespace EditionHalf

/-- The half with the given link as the one to its latest version. -/
def withLatestVersion (half : EditionHalf) (link : Link) : EditionHalf :=
  { half with links := some { half.links.getD {} with latestVersion := some link } }

end EditionHalf

namespace Edition

/-- Points Next at the version being published; a link without a target is no link. -/
def publishLinks (edition : Edition) (link : Option Link) : Edition × Result Unit :=
  match link with
  | some link =>
    if link.href.isEmpty then (edition, .error .missingVersionLink)
    else ({ edition with next := some ((edition.next.getD {}).withLatestVersion link) }, .ok ())
  | none => (edition, .error .missingVersionLink)

/-- Marks Next published, points it at the version and copies it to Current. The mark is set first
and stays when the link turns out to be missing. -/
def promote (edition : Edition) (now : Timestamp) (link : Option Link) : Edition × Result Unit :=
  let marked := { edition with
    next := some { edition.next.getD {} with state := some .published } }
  match marked.publishLinks link with
  | (linked, .error error) => (linked, .error error)
  | (linked, .ok ()) =>
    let next := linked.next.map fun half => { half with lastUpdated := some now }
    ({ linked with next := next, current := next }, .ok ())

end Edition

namespace EditionLinks

/-- The links of an edition, in the order in which they are written. -/
def keys : List String := ["dataset", "latest_version", "self", "versions"]

/-- Absent links are left out. -/
def toJson (links : EditionLinks) : Json :=
  .object (Json.optional "dataset" Link.toJson links.dataset ++
    Json.optional "latest_version" Link.toJson links.latestVersion ++
    Json.optional "self" Link.toJson links.self ++
    Json.optional "versions" Link.toJson links.versions)

/-- Reads the links of an edition; every one may be missing. -/
def ofJson? (value : Json) : Option EditionLinks := do
  let fields ← Json.Fields.read? keys value
  some {
    dataset := ← fields.optional "dataset" Link.ofJson?
    latestVersion := ← fields.optional "latest_version" Link.ofJson?
    self := ← fields.optional "self" Link.ofJson?
    versions := ← fields.optional "versions" Link.ofJson? }

end EditionLinks

namespace EditionHalf

/-- The fields of a half, in the order in which they are written. -/
def keys : List String := ["id", "edition", "state", "links", "last_updated"]

/-- The document of a half; identifier and name are written even when empty. -/
def toJson (half : EditionHalf) : Json :=
  .object (Json.member "id" (.string half.id) ++
    Json.member "edition" (.string half.edition) ++
    Json.optional "state" State.toJson half.state ++
    Json.optional "links" EditionLinks.toJson half.links ++
    Json.optional "last_updated" Timestamp.toJson half.lastUpdated)

/-- Reads a half; every field may be missing. -/
def ofJson? (value : Json) : Option EditionHalf := do
  let fields ← Json.Fields.read? keys value
  some {
    id := ← fields.text "id"
    edition := ← fields.text "edition"
    state := ← fields.optional "state" State.ofJson?
    links := ← fields.optional "links" EditionLinks.ofJson?
    lastUpdated := ← fields.optional "last_updated" Timestamp.ofJson? }

end EditionHalf

namespace Edition

/-- The fields of an edition, in the order in which they are written. -/
def keys : List String := ["id", "current", "next", "e_tag"]

/-- The document of an edition. -/
def toJson (edition : Edition) : Json :=
  .object (Json.member "id" (.string edition.id) ++
    Json.optional "current" EditionHalf.toJson edition.current ++
    Json.optional "next" EditionHalf.toJson edition.next ++
    Json.unlessEmpty "e_tag" edition.eTag)

/-- Reads an edition; the identifier must be given. -/
def ofJson? (value : Json) : Option Edition := do
  let fields ← Json.Fields.read? keys value
  some {
    id := ← fields.required "id" Json.text?
    current := ← fields.optional "current" EditionHalf.ofJson?
    next := ← fields.optional "next" EditionHalf.ofJson?
    eTag := ← fields.text "e_tag" }

end Edition

end ReleaseCatalog
