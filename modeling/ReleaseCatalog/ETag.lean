/-
Entity tags: hashes of the content of a document, by which a writer says which state of the
document it means to replace. The tag of a document is the hash of its compact JSON text with the
tag itself left out.
-/

import ReleaseCatalog.Digest.Sha256
import ReleaseCatalog.Dataset
import ReleaseCatalog.Edition
import ReleaseCatalog.Instance

namespace ReleaseCatalog

namespace ETag

/-- The selector that matches every document. -/
def any : String := "*"

/-- The hash of a JSON text: the digest of its bytes in UTF-8. -/
def ofText (text : String) : String :=
  Sha256.hex text.toUTF8

/-- The hash of a document. -/
def contentHash (document : Json) : String :=
  ofText document.render

/-- Whether a selector admits a document that is stored under the given tag. -/
def admits (selector stored : String) : Bool :=
  selector == any || selector == stored

/-- The check before a write: a selector that does not admit the stored tag is a conflict. -/
def check (resource selector stored : String) : Result Unit :=
  if admits selector stored then .ok () else .error (.conflict resource selector)

/-- The selector for every document admits every tag. -/
theorem admits_any (stored : String) : admits any stored = true := by
  simp [admits]

/-- A tag admits itself. -/
theorem admits_self (stored : String) : admits stored stored = true := by
  simp [admits]

/-- The check passes exactly for the selector of every document and the stored tag itself. -/
theorem check_eq_ok_iff (resource selector stored : String) :
    check resource selector stored = .ok () ↔ selector = any ∨ selector = stored := by
  unfold check admits
  by_cases anyone : selector = any <;> by_cases same : selector = stored <;>
    simp [anyone, same]

end ETag

namespace Version

/-- The hash of a version, which does not depend on the tag that it carries. -/
def hash (version : Version) : String :=
  ETag.contentHash { version with eTag := "" }.toJson

/-- The document that replaces `current`. The slot and the instance are those of the stored
document, so that no candidate can move a version; time and tag are new. -/
def stamp (now : Timestamp) (current candidate : Version) : Version :=
  let placed := { candidate with
    id := current.id
    datasetId := current.datasetId
    edition := current.edition
    number := current.number
    lastUpdated := some now }
  { placed with eTag := placed.hash }

/-- A version that is stored for the first time. -/
def stampNew (now : Timestamp) (version : Version) : Version :=
  let dated := { version with lastUpdated := some now }
  { dated with eTag := dated.hash }

/-- The hash does not depend on the tag that the version carries. -/
theorem hash_of_eTag (version : Version) (tag : String) :
    { version with eTag := tag }.hash = version.hash := rfl

/-- The tag of a stamped version is its hash. -/
theorem stamp_eTag (now : Timestamp) (current candidate : Version) :
    (stamp now current candidate).eTag = (stamp now current candidate).hash := rfl

/-- The tag of a version that is stored for the first time is its hash. -/
theorem stampNew_eTag (now : Timestamp) (version : Version) :
    (stampNew now version).eTag = (stampNew now version).hash := rfl

end Version

namespace Edition

/-- The hash of an edition, which does not depend on the tag that it carries. -/
def hash (edition : Edition) : String :=
  ETag.contentHash { edition with eTag := "" }.toJson

/-- The edition with a fresh tag. -/
def stamp (edition : Edition) : Edition :=
  { edition with eTag := edition.hash }

/-- The tag of a stamped edition is its hash. -/
theorem stamp_eTag (edition : Edition) : edition.stamp.eTag = edition.stamp.hash := rfl

end Edition

end ReleaseCatalog
