/-
How a version grows. Whatever updates are merged into it and stamped over it, what the version is
and of which type stays as it was first stored, and so do all its links but the spatial one. Alerts
and latest changes are only added to, and what the version once has of downloads, of a release date,
of periods and of notes on its use it never loses again.
-/

import ReleaseCatalog.ETag
import ReleaseCatalog.Merge

namespace ReleaseCatalog

namespace Merge

/-- A text is empty after a merge only if there was none on either side. -/
theorem text_eq_empty_iff {stored update : String} :
    text stored update = "" ↔ update = "" ∧ stored = "" := by
  unfold text
  by_cases empty : update = ""
  · simp [empty]
  · simp [empty, String.isEmpty_iff]

theorem text_ne_empty {stored : String} (given : stored ≠ "") (update : String) :
    text stored update ≠ "" :=
  fun empty => given (text_eq_empty_iff.mp empty).2

theorem list_ne_nil {α : Type} {stored : Option (List α)} (given : stored.getD [] ≠ [])
    (update : Option (List α)) : (list stored update).getD [] ≠ [] := by
  match update with
  | none | some [] => exact given
  | some (item :: items) => exact List.cons_ne_nil item items

theorem append_getD {α : Type} (stored update : Option (List α)) :
    (append stored update).getD [] = stored.getD [] ++ update.getD [] := by
  cases stored <;> cases update <;> rfl

/-- The download in a format is the one of the update if it has that format, whatever the download
holds, and else the stored one. -/
theorem get?_downloads (stored update : Option Downloads) (format : Format) :
    (downloads stored update).bind (·.get? format) =
      (update.bind (·.get? format) <|> stored.bind (·.get? format)) := by
  match stored, update with
  | _, none => rfl
  | none, some given =>
    show given.get? format = (given.get? format <|> none)
    cases given.get? format <;> rfl
  | some stored, some given => exact Downloads.get?_fillMissingFrom given stored format

/-- A format that is there stays there, with the file of the update or with its own. -/
theorem isSome_downloads {stored : Option Downloads} {format : Format}
    (there : (stored.bind (·.get? format)).isSome = true) (update : Option Downloads) :
    ((downloads stored update).bind (·.get? format)).isSome = true := by
  rw [get?_downloads]
  cases update.bind (·.get? format) with
  | some download => rfl
  | none => exact there

end Merge

namespace Version

/-- The download of a version in a format. -/
def download? (version : Version) (format : Format) : Option Download :=
  version.downloads.bind (·.get? format)

/-- The links of a version that no update can set. -/
def fixedLinks (version : Version) : VersionLinks :=
  { version.links.getD {} with spatial := none }

theorem fixedLinks_combine (stored update : Version) :
    (combine stored update).fixedLinks = stored.fixedLinks := by
  show { (Merge.links stored.links update.links).getD {} with spatial := none } =
    stored.fixedLinks
  unfold Merge.links
  cases update.links.bind (·.spatial) <;> rfl

/-- The later document may have come of the earlier one by these updates, in this order. -/
structure Grows (updates : List Version) (earlier later : Version) : Prop where
  id : later.id = earlier.id
  datasetId : later.datasetId = earlier.datasetId
  edition : later.edition = earlier.edition
  number : later.number = earlier.number
  type : later.type = earlier.type
  links : later.fixedLinks = earlier.fixedLinks
  alerts : later.alerts.getD [] =
    earlier.alerts.getD [] ++ updates.flatMap fun update => update.alerts.getD []
  latestChanges : later.latestChanges.getD [] =
    earlier.latestChanges.getD [] ++ updates.flatMap fun update => update.latestChanges.getD []
  downloads (format : Format) : (earlier.download? format).isSome = true →
    (later.download? format).isSome = true
  releaseDate : earlier.releaseDate ≠ "" → later.releaseDate ≠ ""
  temporal : earlier.temporal.getD [] ≠ [] → later.temporal.getD [] ≠ []
  usageNotes : earlier.usageNotes.getD [] ≠ [] → later.usageNotes.getD [] ≠ []

variable {updates more : List Version} {earlier later last : Version}

theorem Grows.refl (version : Version) : Grows [] version version where
  id := rfl
  datasetId := rfl
  edition := rfl
  number := rfl
  type := rfl
  links := rfl
  alerts := (List.append_nil _).symm
  latestChanges := (List.append_nil _).symm
  downloads _ there := there
  releaseDate given := given
  temporal given := given
  usageNotes given := given

theorem Grows.trans (grows : Grows updates earlier later) (again : Grows more later last) :
    Grows (updates ++ more) earlier last where
  id := again.id.trans grows.id
  datasetId := again.datasetId.trans grows.datasetId
  edition := again.edition.trans grows.edition
  number := again.number.trans grows.number
  type := again.type.trans grows.type
  links := again.links.trans grows.links
  alerts := by rw [again.alerts, grows.alerts, List.flatMap_append, List.append_assoc]
  latestChanges := by
    rw [again.latestChanges, grows.latestChanges, List.flatMap_append, List.append_assoc]
  downloads format := again.downloads format ∘ grows.downloads format
  releaseDate := again.releaseDate ∘ grows.releaseDate
  temporal := again.temporal ∘ grows.temporal
  usageNotes := again.usageNotes ∘ grows.usageNotes

/-- The document that is written for an update has grown by it. -/
theorem grows_stamp_combine (now : Timestamp) (stored update : Version) :
    Grows [update] stored (stamp now stored (combine stored update)) where
  id := rfl
  datasetId := rfl
  edition := rfl
  number := rfl
  type := rfl
  links := fixedLinks_combine stored update
  alerts := by
    rw [List.flatMap_singleton]
    exact Merge.append_getD stored.alerts update.alerts
  latestChanges := by
    rw [List.flatMap_singleton]
    exact Merge.append_getD stored.latestChanges update.latestChanges
  downloads _ there := Merge.isSome_downloads there update.downloads
  releaseDate given := Merge.text_ne_empty given update.releaseDate
  temporal given := Merge.list_ne_nil given update.temporal
  usageNotes given := Merge.list_ne_nil given update.usageNotes

/-- What may become of the content of a slot by these updates: a document grows, and where there is
none none is put. -/
inductive SlotGrows : List Version → Option Version → Option Version → Prop
  | vacant : SlotGrows [] none none
  | stored {updates : List Version} {earlier later : Version} :
    Grows updates earlier later → SlotGrows updates (some earlier) (some later)

theorem SlotGrows.refl (content : Option Version) : SlotGrows [] content content := by
  cases content with
  | none => exact .vacant
  | some version => exact .stored (.refl version)

theorem SlotGrows.of_none {later : Option Version} (grows : SlotGrows updates none later) :
    updates = [] ∧ later = none := by
  cases grows
  exact ⟨rfl, rfl⟩

theorem SlotGrows.of_some {later : Option Version} (grows : SlotGrows updates (some earlier) later) :
    ∃ current, later = some current ∧ Grows updates earlier current := by
  cases grows with
  | stored grows => exact ⟨_, rfl, grows⟩

theorem SlotGrows.to_some {content : Option Version}
    (grows : SlotGrows updates content (some later)) :
    ∃ stored, content = some stored ∧ Grows updates stored later := by
  cases grows with
  | stored grows => exact ⟨_, rfl, grows⟩

theorem SlotGrows.trans {earlier later last : Option Version}
    (grows : SlotGrows updates earlier later) (again : SlotGrows more later last) :
    SlotGrows (updates ++ more) earlier last := by
  cases grows with
  | vacant =>
    cases again
    exact .vacant
  | stored grows =>
    cases again with
    | stored again => exact .stored (grows.trans again)

end Version

end ReleaseCatalog
