/-
The documents of a catalog are read back from their texts. Each field has its own rule for what is
left out: an empty text that is left out, a list that is absent, and a list that is empty stay
apart. So the text of a document tells it from every other, and the tag of a version, which is the
digest of a text, tells its content as far as the digest tells the texts.
-/

import Mathlib.Data.Set.Function
import ReleaseCatalog.ETag
import ReleaseCatalog.Identifiers
import ReleaseCatalog.Proofs.Json.Records
import ReleaseCatalog.Proofs.Time.Reading
import ReleaseCatalog.Transition

namespace ReleaseCatalog

open Json (Codec Entry)

/-! ### Values that are written as text -/

instance : Codec State.toJson State.ofJson? where
  decodes state := state.ofName?_name
  plain state := .string state.name
  present _ := nofun

instance : Codec DatasetType.toJson DatasetType.ofJson? where
  decodes type := type.resolve?_name
  plain type := .string type.name
  present _ := nofun

instance : Codec Timestamp.toJson Timestamp.ofJson? where
  decodes stamp := stamp.read?_text
  plain stamp := .string stamp.text
  present _ := nofun

/-! ### The parts of a version -/

instance : Codec Link.toJson Link.ofJson? :=
  .ofEntries (by decide)
    (fun link => [.unlessEmpty "id" link.id, .always "href" Json.string link.href])
    (fun _ => rfl) (fun _ => rfl) (fun _ => rfl) (fun link fields given => by
      simp only [List.forall_mem_cons, Entry.unlessEmpty_key, Entry.always_key] at given
      simp [given])

instance : Codec TemporalFrequency.toJson TemporalFrequency.ofJson? :=
  .ofEntries (by decide)
    (fun period =>
      [.always "start_date" Json.string period.startDate,
        .always "end_date" Json.string period.endDate,
        .always "frequency" Json.string period.frequency])
    (fun _ => rfl) (fun _ => rfl) (fun _ => rfl) (fun period fields given => by
      simp only [List.forall_mem_cons, Entry.always_key] at given
      simp [given])

instance : Codec Alert.toJson Alert.ofJson? :=
  .ofEntries (by decide)
    (fun alert =>
      [.always "date" Json.string alert.date,
        .always "description" Json.string alert.description,
        .always "type" Json.string alert.type])
    (fun _ => rfl) (fun _ => rfl) (fun _ => rfl) (fun alert fields given => by
      simp only [List.forall_mem_cons, Entry.always_key] at given
      simp [given])

instance : Codec LatestChange.toJson LatestChange.ofJson? :=
  .ofEntries (by decide)
    (fun change =>
      [.always "description" Json.string change.description,
        .always "name" Json.string change.name,
        .always "type" Json.string change.type])
    (fun _ => rfl) (fun _ => rfl) (fun _ => rfl) (fun change fields given => by
      simp only [List.forall_mem_cons, Entry.always_key] at given
      simp [given])

instance : Codec UsageNote.toJson UsageNote.ofJson? :=
  .ofEntries (by decide)
    (fun note =>
      [.always "title" Json.string note.title, .always "note" Json.string note.note])
    (fun _ => rfl) (fun _ => rfl) (fun _ => rfl) (fun note fields given => by
      simp only [List.forall_mem_cons, Entry.always_key] at given
      simp [given])

instance : Codec Download.toJson Download.ofJson? :=
  .ofEntries (by decide)
    (fun download =>
      [.unlessEmpty "href" download.href,
        .unlessEmpty "size" download.size,
        .unlessEmpty "public" download.publicUrl,
        .unlessEmpty "private" download.privateUrl])
    (fun _ => rfl) (fun _ => rfl) (fun _ => rfl) (fun download fields given => by
      simp only [List.forall_mem_cons, Entry.unlessEmpty_key] at given
      simp [given])

instance : Codec Downloads.toJson Downloads.ofJson? :=
  .ofEntries (by decide)
    (fun downloads =>
      [.optional "csv" Download.toJson downloads.csv,
        .optional "csvw" Download.toJson downloads.csvw,
        .optional "xls" Download.toJson downloads.xls,
        .optional "xlsx" Download.toJson downloads.xlsx,
        .optional "txt" Download.toJson downloads.txt])
    (fun _ => rfl) (fun _ => rfl) (fun _ => rfl) (fun downloads fields given => by
      simp only [List.forall_mem_cons, Entry.optional_key] at given
      simp [given])

instance : Codec VersionLinks.toJson VersionLinks.ofJson? :=
  .ofEntries (by decide)
    (fun links =>
      [.optional "dataset" Link.toJson links.dataset,
        .optional "dimensions" Link.toJson links.dimensions,
        .optional "edition" Link.toJson links.edition,
        .optional "self" Link.toJson links.self,
        .optional "spatial" Link.toJson links.spatial,
        .optional "version" Link.toJson links.version])
    (fun _ => rfl) (fun _ => rfl) (fun _ => rfl) (fun links fields given => by
      simp only [List.forall_mem_cons, Entry.optional_key] at given
      simp [given])

/-! ### Documents -/

instance Version.codec : Codec Version.toJson Version.ofJson? :=
  .ofEntries (by decide)
    (fun version =>
      [.unlessEmpty "id" version.id,
        .unlessEmpty "dataset_id" version.datasetId,
        .unlessEmpty "edition" version.edition,
        .always "version" Json.ofCount version.number,
        .unlessEmpty "type" version.type,
        .optional "state" State.toJson version.state,
        .unlessEmpty "collection_id" version.collectionId,
        .unlessEmpty "release_date" version.releaseDate,
        .optional "temporal" (Json.ofList TemporalFrequency.toJson) version.temporal,
        .optional "alerts" (Json.ofList Alert.toJson) version.alerts,
        .optional "latest_changes" (Json.ofList LatestChange.toJson) version.latestChanges,
        .optional "usage_notes" (Json.ofList UsageNote.toJson) version.usageNotes,
        .optional "downloads" Downloads.toJson version.downloads,
        .optional "links" VersionLinks.toJson version.links,
        .optional "last_updated" Timestamp.toJson version.lastUpdated,
        .unlessEmpty "e_tag" version.eTag])
    (fun _ => rfl) (fun _ => rfl) (fun _ => rfl) (fun version fields given => by
      simp only [List.forall_mem_cons, Entry.unlessEmpty_key, Entry.always_key,
        Entry.optional_key] at given
      simp [given])

instance : Codec DatasetLinks.toJson DatasetLinks.ofJson? :=
  .ofEntries (by decide)
    (fun links =>
      [.optional "editions" Link.toJson links.editions,
        .optional "latest_version" Link.toJson links.latestVersion,
        .optional "self" Link.toJson links.self])
    (fun _ => rfl) (fun _ => rfl) (fun _ => rfl) (fun links fields given => by
      simp only [List.forall_mem_cons, Entry.optional_key] at given
      simp [given])

instance : Codec DatasetHalf.toJson DatasetHalf.ofJson? :=
  .ofEntries (by decide)
    (fun half =>
      [.always "id" Json.string half.id,
        .unlessEmpty "title" half.title,
        .unlessEmpty "description" half.description,
        .unlessEmpty "type" half.type,
        .optional "state" State.toJson half.state,
        .unlessEmpty "collection_id" half.collectionId,
        .unlessEmpty "next_release" half.nextRelease,
        .optional "links" DatasetLinks.toJson half.links,
        .optional "last_updated" Timestamp.toJson half.lastUpdated])
    (fun _ => rfl) (fun _ => rfl) (fun _ => rfl) (fun half fields given => by
      simp only [List.forall_mem_cons, Entry.unlessEmpty_key, Entry.always_key,
        Entry.optional_key] at given
      simp [given])

instance Dataset.codec : Codec Dataset.toJson Dataset.ofJson? :=
  .ofEntries (by decide)
    (fun dataset =>
      [.always "id" Json.string dataset.id,
        .optional "current" DatasetHalf.toJson dataset.current,
        .optional "next" DatasetHalf.toJson dataset.next])
    (fun _ => rfl) (fun _ => rfl) (fun _ => rfl) (fun dataset fields given => by
      simp only [List.forall_mem_cons, Entry.always_key, Entry.optional_key] at given
      simp [given])

instance : Codec EditionLinks.toJson EditionLinks.ofJson? :=
  .ofEntries (by decide)
    (fun links =>
      [.optional "dataset" Link.toJson links.dataset,
        .optional "latest_version" Link.toJson links.latestVersion,
        .optional "self" Link.toJson links.self,
        .optional "versions" Link.toJson links.versions])
    (fun _ => rfl) (fun _ => rfl) (fun _ => rfl) (fun links fields given => by
      simp only [List.forall_mem_cons, Entry.optional_key] at given
      simp [given])

instance : Codec EditionHalf.toJson EditionHalf.ofJson? :=
  .ofEntries (by decide)
    (fun half =>
      [.always "id" Json.string half.id,
        .always "edition" Json.string half.edition,
        .optional "state" State.toJson half.state,
        .optional "links" EditionLinks.toJson half.links,
        .optional "last_updated" Timestamp.toJson half.lastUpdated])
    (fun _ => rfl) (fun _ => rfl) (fun _ => rfl) (fun half fields given => by
      simp only [List.forall_mem_cons, Entry.always_key, Entry.optional_key] at given
      simp [given])

instance Edition.codec : Codec Edition.toJson Edition.ofJson? :=
  .ofEntries (by decide)
    (fun edition =>
      [.always "id" Json.string edition.id,
        .optional "current" EditionHalf.toJson edition.current,
        .optional "next" EditionHalf.toJson edition.next,
        .unlessEmpty "e_tag" edition.eTag])
    (fun _ => rfl) (fun _ => rfl) (fun _ => rfl) (fun edition fields given => by
      simp only [List.forall_mem_cons, Entry.unlessEmpty_key, Entry.always_key,
        Entry.optional_key] at given
      simp [given])

instance Instance.codec : Codec Instance.toJson Instance.ofJson? :=
  .ofEntries (by decide)
    (fun record =>
      [.always "id" Json.string record.id,
        .optional "state" State.toJson record.state,
        .always "is_published" Json.bool record.isPublished])
    (fun _ => rfl) (fun _ => rfl) (fun _ => rfl) (fun record fields given => by
      simp only [List.forall_mem_cons, Entry.always_key, Entry.optional_key] at given
      simp [given])

instance Transition.codec : Codec Transition.toJson Transition.ofJson? :=
  .ofEntries (by decide)
    (fun rule =>
      [.always "label" State.toJson rule.target,
        .always "type" DatasetType.toJson rule.type,
        .always "allowed_source_states" (Json.ofList State.toJson) rule.sources])
    (fun _ => rfl) (fun _ => rfl) (fun _ => rfl) (fun rule fields given => by
      simp only [List.forall_mem_cons, Entry.always_key] at given
      simp [given])

instance VersionIdentifiers.codec :
    Codec VersionIdentifiers.toJson VersionIdentifiers.ofJson? :=
  .ofEntries (by decide)
    (fun identifiers =>
      [.always "dataset_id" Json.string identifiers.datasetId,
        .always "edition" Json.string identifiers.edition,
        .always "version" Json.string identifiers.version])
    (fun _ => rfl) (fun _ => rfl) (fun _ => rfl) (fun identifiers fields given => by
      simp only [List.forall_mem_cons, Entry.always_key] at given
      simp [given])

/-! ### Tags -/

namespace Version

/-- The text of which the hash of a version is taken. -/
def hashedText (version : Version) : String :=
  { version with eTag := "" }.toJson.render

/-- Versions with the same text to be hashed differ in their tags at most. -/
theorem eq_of_hashedText_eq {first second : Version}
    (same : first.hashedText = second.hashedText) :
    { first with eTag := second.eTag } = second := by
  have untagged : { first with eTag := "" } = { second with eTag := "" } :=
    codec.render_injective same
  obtain ⟨⟩ := first
  obtain ⟨⟩ := second
  simp only [mk.injEq, and_true] at untagged ⊢
  exact untagged

/-- The hash tells versions apart whose texts the digest tells apart. -/
theorem hash_eq_iff {versions : Set Version}
    (apart : Set.InjOn ETag.ofText (hashedText '' versions)) {first second : Version}
    (firstThere : first ∈ versions) (secondThere : second ∈ versions) :
    first.hash = second.hash ↔ { first with eTag := second.eTag } = second := by
  constructor
  · intro same
    exact eq_of_hashedText_eq
      (apart (Set.mem_image_of_mem _ firstThere) (Set.mem_image_of_mem _ secondThere) same)
  · intro same
    exact (first.hash_of_eTag second.eTag).symm.trans (congrArg hash same)

end Version

namespace Json

/-- The text of a value is read back as the value, and no two values have the same text. -/
def IsReadBack {α : Type} (encode : α → Json) (decode : Json → Option α) : Prop :=
  (∀ value, decode? decode (encode value).render = some value) ∧
    Function.Injective fun value => (encode value).render

theorem Codec.isReadBack {α : Type} {encode : α → Json} {decode : Json → Option α}
    (codec : Codec encode decode) : IsReadBack encode decode :=
  ⟨codec.decode?_render, codec.render_injective⟩

end Json

/-- All kinds of documents are read back from their texts, so that the texts tell them apart; and
where no two texts of versions without their tags have the same digest, two versions have the same
hash exactly when they differ in their tags at most. -/
theorem documents_are_read_back :
    Json.IsReadBack Version.toJson Version.ofJson? ∧
    Json.IsReadBack Dataset.toJson Dataset.ofJson? ∧
    Json.IsReadBack Edition.toJson Edition.ofJson? ∧
    Json.IsReadBack Instance.toJson Instance.ofJson? ∧
    Json.IsReadBack Transition.toJson Transition.ofJson? ∧
    Json.IsReadBack VersionIdentifiers.toJson VersionIdentifiers.ofJson? ∧
    ∀ versions : Set Version, Set.InjOn ETag.ofText (Version.hashedText '' versions) →
      ∀ first ∈ versions, ∀ second ∈ versions,
        first.hash = second.hash ↔ { first with eTag := second.eTag } = second :=
  ⟨Version.codec.isReadBack, Dataset.codec.isReadBack, Edition.codec.isReadBack,
    Instance.codec.isReadBack, Transition.codec.isReadBack, VersionIdentifiers.codec.isReadBack,
    fun _ apart _ firstThere _ secondThere => Version.hash_eq_iff apart firstThere secondThere⟩

/-- Two versions of different content, of which the second is tagged, have different hashes. -/
theorem documents_are_read_back_sample :
    let versions : Set Version := {{ number := 1 }, { number := 2, eTag := "tag" }}
    Set.InjOn ETag.ofText (Version.hashedText '' versions) ∧
      ({ number := 1 } : Version).hash ≠ ({ number := 2, eTag := "tag" } : Version).hash := by
  have differ : ETag.ofText (Version.hashedText { number := 1 }) ≠
      ETag.ofText (Version.hashedText { number := 2, eTag := "tag" }) := by
    decide +kernel
  have apart : Set.InjOn ETag.ofText
      (Version.hashedText '' {{ number := 1 }, { number := 2, eTag := "tag" }}) := by
    rintro _ ⟨first, rfl | rfl, rfl⟩ _ ⟨second, rfl | rfl, rfl⟩ same
    · rfl
    · exact absurd same differ
    · exact absurd same.symm differ
    · rfl
  refine ⟨apart, fun same => ?_⟩
  have equal := (documents_are_read_back.2.2.2.2.2.2 _ apart _ (.inl rfl) _ (.inr rfl)).mp same
  exact absurd equal (by decide)

end ReleaseCatalog
