/-
The metadata that a version must carry to be released. The mandatory fields stand in one fixed list,
whatever the version; a version lacks some of them, and the check of a version reports exactly those
that it lacks, in the order of the list. So what the check does can be said without its steps, and
what it does to a merged version can be read off from the two versions that were merged: each
mandatory field is filled from the object that wins the merge, which hides the other one even where
it is only half filled.
-/

import Mathlib.Data.List.Nodup
import ReleaseCatalog.Proofs.Workflow.Growth
import ReleaseCatalog.Validation

namespace ReleaseCatalog

/-! ### The texts and states that the check knows -/

namespace DatasetType

/-- The texts that name a type. The first one is that of documents from before there were types. -/
def spellings : List String :=
  ["", "v4", "filterable", "cantabular_table", "cantabular_blob", "cantabular_flexible_table",
    "cantabular_multivariate_table", "nomis", "static"]

theorem mem_spellings_iff {text : String} :
    text ∈ spellings ↔ text = "" ∨ text = "v4" ∨ ∃ type ∈ all, type.name = text := by
  simp only [spellings, all, name, List.mem_cons, List.not_mem_nil, or_false, or_and_right,
    exists_or, exists_eq_left, eq_comm]

/-- A text names a type exactly when it is one of the spellings. -/
theorem exists_resolve?_iff {text : String} :
    (∃ type, resolve? text = some type) ↔ text ∈ spellings := by
  rw [mem_spellings_iff, ← or_assoc]
  unfold resolve?
  by_cases oldest : text = "" ∨ text = "v4"
  · simp [oldest]
  · rw [if_neg oldest, or_iff_right oldest, ← Option.isSome_iff_exists, List.find?_isSome]
    simp only [beq_iff_eq]

end DatasetType

theorem State.requiresReleaseMetadata_iff {state : State} :
    state.requiresReleaseMetadata = true ↔
      state ∈ [State.editionConfirmed, .associated, .published] := by
  cases state <;> decide

/-! ### Mandatory fields -/

namespace MandatoryField

/-- All mandatory fields, in the order in which they are reported. -/
def all : List MandatoryField :=
  releaseDate :: Format.all.flatMap fun format => [href format, size format]

theorem mem_all (field : MandatoryField) : field ∈ all := by
  cases field with
  | releaseDate => decide
  | href format | size format => cases format <;> decide

/-- No two mandatory fields have the same name. -/
theorem nodup_names : (all.map name).Nodup := by
  decide

theorem name_injective {first second : MandatoryField} (same : first.name = second.name) :
    first = second :=
  List.inj_on_of_nodup_map nodup_names first.mem_all second.mem_all same

example : all.map name =
    ["release_date", "downloads.csv.href", "downloads.csv.size", "downloads.csvw.href",
      "downloads.csvw.size", "downloads.xls.href", "downloads.xls.size", "downloads.xlsx.href",
      "downloads.xlsx.size", "downloads.txt.href", "downloads.txt.size"] := by
  decide

end MandatoryField

namespace Version

/-- The version lacks a mandatory field: its release date is empty, or there is a download without
location or without size. A format without a download lacks nothing. -/
def Lacks (version : Version) : MandatoryField → Prop
  | .releaseDate => version.releaseDate = ""
  | .href format => ∃ download ∈ version.download? format, download.href = ""
  | .size format => ∃ download ∈ version.download? format, download.size = ""

instance (version : Version) : DecidablePred version.Lacks
  | .releaseDate => inferInstanceAs (Decidable (version.releaseDate = ""))
  | .href format =>
    inferInstanceAs (Decidable (∃ download ∈ version.download? format, download.href = ""))
  | .size format =>
    inferInstanceAs (Decidable (∃ download ∈ version.download? format, download.size = ""))

theorem missingOfDownload_eq_filter (version : Version) (format : Format) :
    missingOfDownload format (version.download? format) =
      [MandatoryField.href format, .size format].filter (version.Lacks ·) := by
  cases found : version.download? format with
  | none => simp [missingOfDownload, Lacks, found]
  | some download =>
    by_cases unplaced : download.href = "" <;> by_cases unsized : download.size = "" <;>
      simp [missingOfDownload, Lacks, found, unplaced, unsized, String.isEmpty_iff]

theorem missingFields_eq_flatMap (version : Version) :
    version.missingFields = (if version.releaseDate.isEmpty then [.releaseDate] else []) ++
      Format.all.flatMap fun format => missingOfDownload format (version.download? format) := by
  unfold missingFields download?
  cases version.downloads with
  | none => rfl
  | some downloads =>
    show _ ++ downloads.listed.flatMap _ = _
    rw [Downloads.listed, List.flatMap_map]
    rfl

/-- The fields that are found missing are those that the version lacks, in the order in which all
mandatory fields stand. -/
theorem missingFields_eq_filter (version : Version) :
    version.missingFields = MandatoryField.all.filter (version.Lacks ·) := by
  rw [missingFields_eq_flatMap, MandatoryField.all, List.filter_cons, List.filter_flatMap]
  simp only [missingOfDownload_eq_filter]
  by_cases undated : version.releaseDate = "" <;> simp [Lacks, undated, String.isEmpty_iff]

theorem mem_missingFields_iff {version : Version} {field : MandatoryField} :
    field ∈ version.missingFields ↔ version.Lacks field := by
  rw [missingFields_eq_filter, List.mem_filter, decide_eq_true_iff]
  exact and_iff_right field.mem_all

theorem missingFields_eq_nil_iff {version : Version} :
    version.missingFields = [] ↔ ∀ field, ¬version.Lacks field := by
  simp only [List.eq_nil_iff_forall_not_mem, mem_missingFields_iff]

/-! ### The check -/

/-- The version is in a state in which it must carry its release metadata. -/
def NeedsMetadata (version : Version) : Prop :=
  ∃ state ∈ [State.editionConfirmed, .associated, .published], version.state = some state

instance (version : Version) : Decidable version.NeedsMetadata :=
  inferInstanceAs (Decidable (∃ state ∈ _, version.state = some state))

theorem needsMetadata_iff {version : Version} {state : State}
    (entered : version.state = some state) :
    version.NeedsMetadata ↔ state.requiresReleaseMetadata = true := by
  rw [State.requiresReleaseMetadata_iff]
  unfold NeedsMetadata
  rw [entered]
  constructor
  · rintro ⟨_, listed, ⟨⟩⟩
    exact listed
  · intro listed
    exact ⟨state, listed, rfl⟩

/-- The check in three questions, of which the first that goes against the version decides. -/
theorem validate_eq (version : Version) :
    version.validate =
      if version.state = none then .error .missingState
      else if version.type ∉ DatasetType.spellings then .error .invalidDatasetType
      else if version.NeedsMetadata ∧ version.missingFields ≠ [] then
        .error (.missingMandatoryFields (version.missingFields.map MandatoryField.name))
      else .ok () := by
  have known := @DatasetType.exists_resolve?_iff version.type
  unfold validate
  cases entered : version.state with
  | none => rfl
  | some state =>
    cases resolved : DatasetType.resolve? version.type with
    | none =>
      have unknown : version.type ∉ DatasetType.spellings := by simp [← known, resolved]
      simp [unknown]
    | some type =>
      have spelled : version.type ∈ DatasetType.spellings := known.mp ⟨type, resolved⟩
      simp only [spelled, needsMetadata_iff entered]
      cases state.requiresReleaseMetadata with
      | false => simp
      | true => cases version.missingFields <;> simp

theorem validate_eq_ok_iff {version : Version} :
    version.validate = .ok () ↔ version.state ≠ none ∧ version.type ∈ DatasetType.spellings ∧
      (version.NeedsMetadata → version.missingFields = []) := by
  grind [validate_eq]

theorem validate_eq_error_iff {version : Version} {error : CatalogError} :
    version.validate = .error error ↔
      version.state = none ∧ error = .missingState ∨
      version.state ≠ none ∧ version.type ∉ DatasetType.spellings ∧ error = .invalidDatasetType ∨
      version.state ≠ none ∧ version.type ∈ DatasetType.spellings ∧ version.NeedsMetadata ∧
        version.missingFields ≠ [] ∧
        error = .missingMandatoryFields (version.missingFields.map MandatoryField.name) := by
  rw [validate_eq]
  split
  · next stateless => simp [stateless, @eq_comm _ error]
  · next stated =>
    split
    · next unknown => simp [stated, unknown, @eq_comm _ error]
    · next known =>
      split
      · next lacking => simp [stated, not_not.mp known, lacking, @eq_comm _ error]
      · next complete =>
        have nothing (needs : version.NeedsMetadata) : version.missingFields = [] :=
          not_not.mp fun lacking => complete ⟨needs, lacking⟩
        simp +contextual [stated, not_not.mp known, nothing]

/-- The check is complete and exact: without a state it fails for that; else with an unknown type
for that; else for the fields that are missing in a state that requires them, which it names once
each and in their order; and otherwise it passes. -/
theorem validate_is_exact (version : Version) :
    let missing := MandatoryField.all.filter (version.Lacks ·)
    (version.validate = .error .missingState ↔ version.state = none) ∧
      (version.validate = .error .invalidDatasetType ↔
        version.state ≠ none ∧ version.type ∉ DatasetType.spellings) ∧
      (∀ names, version.validate = .error (.missingMandatoryFields names) ↔
        version.type ∈ DatasetType.spellings ∧ version.NeedsMetadata ∧ missing ≠ [] ∧
          names = missing.map MandatoryField.name) ∧
      (missing.map MandatoryField.name).Nodup ∧
      (version.validate = .ok () ↔
        version.state ≠ none ∧ version.type ∈ DatasetType.spellings ∧
          (version.NeedsMetadata → missing = [])) := by
  intro missing
  have found : version.missingFields = missing := missingFields_eq_filter version
  have stated : version.NeedsMetadata → version.state ≠ none := by
    rintro ⟨state, -, entered⟩ absent
    cases absent.symm.trans entered
  have distinct : (missing.map MandatoryField.name).Nodup :=
    MandatoryField.nodup_names.sublist (List.filter_sublist.map _)
  rw [← found]
  refine ⟨?_, ?_, fun names => ?_, found ▸ distinct, validate_eq_ok_iff⟩ <;>
    rw [validate_eq_error_iff] <;> grind

example :
    let candidate : Version := {
      state := some .associated
      downloads := some { csv := some { href := "a.csv" }, xls := some {} } }
    candidate.validate = .error (.missingMandatoryFields
      ["release_date", "downloads.csv.size", "downloads.xls.href", "downloads.xls.size"]) := by
  decide

/-! ### Merging -/

/-- The download that wins the merge in a format: the one of the update, though it may be only half
filled, and the stored one where the update has none. -/
def winner? (stored update : Version) (format : Format) : Option Download :=
  update.download? format <|> stored.download? format

theorem mem_winner?_iff {stored update : Version} {format : Format} {download : Download} :
    download ∈ winner? stored update format ↔
      download ∈ update.download? format ∨
        update.download? format = none ∧ download ∈ stored.download? format := by
  unfold winner?
  cases update.download? format <;> simp

theorem download?_combine (stored update : Version) (format : Format) :
    (combine stored update).download? format = winner? stored update format :=
  Merge.get?_downloads stored.downloads update.downloads format

/-- A merge leaves a mandatory field open: no side has a release date, or the download that wins is
without location or without size. -/
def LeavesOpen (stored update : Version) : MandatoryField → Prop
  | .releaseDate => update.releaseDate = "" ∧ stored.releaseDate = ""
  | .href format => ∃ download ∈ winner? stored update format, download.href = ""
  | .size format => ∃ download ∈ winner? stored update format, download.size = ""

variable {stored update : Version} {field : MandatoryField}

theorem lacks_combine_iff :
    (combine stored update).Lacks field ↔ LeavesOpen stored update field := by
  cases field with
  | releaseDate => exact Merge.text_eq_empty_iff
  | href format | size format => simp only [Lacks, LeavesOpen, download?_combine]

/-- The downloads of the version are filled, as many as there are. -/
def HasFilledDownloads (version : Version) : Prop :=
  ∀ format, ∀ download ∈ version.download? format, download.href ≠ "" ∧ download.size ≠ ""

/-- What the download that wins lacks, and none of the update lacks, the stored one lacks. -/
theorem exists_stored_of_winner {format : Format} {lacking : Download → Prop}
    (filled : ∀ download ∈ update.download? format, ¬lacking download)
    (lost : ∃ download ∈ winner? stored update format, lacking download) :
    ∃ download ∈ stored.download? format, lacking download := by
  obtain ⟨download, won, lacks⟩ := lost
  rcases mem_winner?_iff.mp won with given | ⟨-, kept⟩
  · exact absurd lacks (filled download given)
  · exact ⟨download, kept, lacks⟩

/-- If the update brings filled downloads only, what is left open was missing before. -/
theorem LeavesOpen.lacks (filled : update.HasFilledDownloads)
    (opened : LeavesOpen stored update field) : stored.Lacks field := by
  cases field with
  | releaseDate => exact opened.2
  | href format =>
    exact exists_stored_of_winner (fun download given => (filled format download given).1) opened
  | size format =>
    exact exists_stored_of_winner (fun download given => (filled format download given).2) opened

/-- Merging never loses mandatory metadata. If the stored version is complete for the state that is
entered, and all downloads of the update are filled, then the candidate is complete. If a candidate
is rejected its type is unknown, and that is the stored one, or the fields that are named are those
that the merge leaves open. -/
theorem combine_keeps_metadata (stored update : Version) {state : State}
    (entered : (combine stored update).state = some state)
    (required : state.requiresReleaseMetadata = true) :
    ({ stored with state := some state }.validate = .ok () → update.HasFilledDownloads →
        (combine stored update).validate = .ok ()) ∧
      ∀ error, (combine stored update).validate = .error error →
        error = .invalidDatasetType ∧ stored.type ∉ DatasetType.spellings ∨
        ∃ names, error = .missingMandatoryFields names ∧ names ≠ [] ∧
          (∀ name ∈ names, ∃ field : MandatoryField, field.name = name) ∧
          ∀ field : MandatoryField, field.name ∈ names ↔ LeavesOpen stored update field := by
  constructor
  · intro valid filled
    obtain ⟨-, spelled, complete⟩ := validate_eq_ok_iff.mp valid
    have nothing := missingFields_eq_nil_iff.mp (complete ((needsMetadata_iff rfl).mpr required))
    refine validate_eq_ok_iff.mpr ⟨by rw [entered]; nofun, spelled, fun _ => ?_⟩
    refine missingFields_eq_nil_iff.mpr fun field missing => nothing field ?_
    have lacked : stored.Lacks field := (lacks_combine_iff.mp missing).lacks filled
    cases field <;> exact lacked
  · intro error rejected
    obtain ⟨stateless, -⟩ | ⟨-, unknown, rfl⟩ | ⟨-, -, -, missing, rfl⟩ :=
      validate_eq_error_iff.mp rejected
    · cases entered.symm.trans stateless
    · exact .inl ⟨rfl, unknown⟩
    · refine .inr ⟨_, rfl, mt List.map_eq_nil_iff.mp missing, fun name named => ?_,
        fun field => ?_⟩
      · obtain ⟨field, -, same⟩ := List.mem_map.mp named
        exact ⟨field, same⟩
      · rw [List.mem_map_of_injective fun _ _ => MandatoryField.name_injective,
          mem_missingFields_iff, lacks_combine_iff]

/-- A new table keeps the release metadata that was stored; a CSV file without a size hides the one
that had a size. -/
theorem combine_keeps_metadata_sample :
    let stored : Version := {
      id := "instance-1", type := "v4", state := some .editionConfirmed, releaseDate := "2024-01-17"
      downloads := some { csv := some { href := "a.csv", size := "10" } } }
    let update : Version := {
      state := some .associated
      downloads := some { xls := some { href := "a.xls", size := "20" } } }
    let unsized : Version := {
      state := some .associated
      downloads := some { csv := some { href := "b.csv" } } }
    (combine stored update).state = some .associated ∧
      State.associated.requiresReleaseMetadata = true ∧
      { stored with state := some .associated }.validate = .ok () ∧ update.HasFilledDownloads ∧
      (combine stored update).validate = .ok () ∧
      (combine stored unsized).validate = .error (.missingMandatoryFields ["downloads.csv.size"]) ∧
      LeavesOpen stored unsized (.size .csv) := by
  intro stored update unsized
  have valid : { stored with state := some .associated }.validate = .ok () := by decide
  have filled : update.HasFilledDownloads := by
    intro format
    cases format <;> decide
  have rejected : (combine stored unsized).validate =
      .error (.missingMandatoryFields ["downloads.csv.size"]) := by decide
  refine ⟨rfl, rfl, valid, filled, (combine_keeps_metadata stored update rfl rfl).1 valid filled,
    rejected, ?_⟩
  obtain ⟨known, -⟩ | ⟨names, same, -, -, named⟩ :=
    (combine_keeps_metadata stored unsized rfl rfl).2 _ rejected
  · cases known
  · cases same
    exact (named _).mp (by decide)

end Version

end ReleaseCatalog
