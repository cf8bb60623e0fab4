/-
Hyperlinks between the resources of a catalog.
-/

import ReleaseCatalog.Json.Record

namespace ReleaseCatalog

/-- A hyperlink to a resource of the catalog. -/
structure Link where
  id : String := ""
  href : String := ""
  deriving DecidableEq, Repr, Inhabited

namespace Link

/-- The fields of a link, in the order in which they are written. -/
def keys : List String := ["id", "href"]

/-- The identifier is left out when empty. -/
def toJson (link : Link) : Json :=
  .object (Json.unlessEmpty "id" link.id ++ Json.member "href" (.string link.href))

/-- Reads a link; both fields may be missing. -/
def ofJson? (value : Json) : Option Link := do
  let fields ← Json.Fields.read? keys value
  some { id := ← fields.text "id", href := ← fields.text "href" }

end Link

end ReleaseCatalog
