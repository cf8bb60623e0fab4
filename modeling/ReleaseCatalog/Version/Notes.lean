/-
What is said about the data of a version: the periods that it covers, alerts, changes since the
version before, and notes on its use.
-/

import ReleaseCatalog.Json.Record

namespace ReleaseCatalog

/-- A period of time that the data covers, and how often it has values. -/
structure TemporalFrequency where
  startDate : String := ""
  endDate : String := ""
  frequency : String := ""
  deriving DecidableEq, Repr, Inhabited

/-- A correction or other alert. -/
structure Alert where
  date : String := ""
  description : String := ""
  type : String := ""
  deriving DecidableEq, Repr, Inhabited

/-- A change since the version before. -/
structure LatestChange where
  description : String := ""
  name : String := ""
  type : String := ""
  deriving DecidableEq, Repr, Inhabited

/-- A note on the use of the data. -/
structure UsageNote where
  title : String := ""
  note : String := ""
  deriving DecidableEq, Repr, Inhabited

namespace TemporalFrequency

/-- The fields of a period, in the order in which they are written. -/
def keys : List String := ["start_date", "end_date", "frequency"]

/-- All fields are written. -/
def toJson (period : TemporalFrequency) : Json :=
  .object (Json.member "start_date" (.string period.startDate) ++
    Json.member "end_date" (.string period.endDate) ++
    Json.member "frequency" (.string period.frequency))

/-- Reads a period; every field may be missing. -/
def ofJson? (value : Json) : Option TemporalFrequency := do
  let fields ← Json.Fields.read? keys value
  some {
    startDate := ← fields.text "start_date"
    endDate := ← fields.text "end_date"
    frequency := ← fields.text "frequency" }

end TemporalFrequency

namespace Alert

/-- The fields of an alert, in the order in which they are written. -/
def keys : List String := ["date", "description", "type"]

/-- All fields are written. -/
def toJson (alert : Alert) : Json :=
  .object (Json.member "date" (.string alert.date) ++
    Json.member "description" (.string alert.description) ++
    Json.member "type" (.string alert.type))

/-- Reads an alert; every field may be missing. -/
def ofJson? (value : Json) : Option Alert := do
  let fields ← Json.Fields.read? keys value
  some {
    date := ← fields.text "date"
    description := ← fields.text "description"
    type := ← fields.text "type" }

end Alert

namespace LatestChange

/-- The fields of a change, in the order in which they are written. -/
def keys : List String := ["description", "name", "type"]

/-- All fields are written. -/
def toJson (change : LatestChange) : Json :=
  .object (Json.member "description" (.string change.description) ++
    Json.member "name" (.string change.name) ++ Json.member "type" (.string change.type))

/-- Reads a change; every field may be missing. -/
def ofJson? (value : Json) : Option LatestChange := do
  let fields ← Json.Fields.read? keys value
  some {
    description := ← fields.text "description"
    name := ← fields.text "name"
    type := ← fields.text "type" }

end LatestChange

namespace UsageNote

/-- The fields of a note, in the order in which they are written. -/
def keys : List String := ["title", "note"]

/-- All fields are written. -/
def toJson (note : UsageNote) : Json :=
  .object (Json.member "title" (.string note.title) ++ Json.member "note" (.string note.note))

/-- Reads a note; every field may be missing. -/
def ofJson? (value : Json) : Option UsageNote := do
  let fields ← Json.Fields.read? keys value
  some { title := ← fields.text "title", note := ← fields.text "note" }

end UsageNote

end ReleaseCatalog
