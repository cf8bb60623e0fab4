/-
What happens to documents when an update is applied twice. The second merge finds its own result in
the stored version: the notes of the update are added once more, but everything that a publication
goes by is the same. Promoting the parents a second time changes nothing but their dates.
-/

import ReleaseCatalog.Merge
import ReleaseCatalog.Proofs.Workflow.Promotion
import ReleaseCatalog.Transition
import ReleaseCatalog.Validation

namespace ReleaseCatalog

/-! ### Merging again -/

/-- Downloads are known by what they have in each format. -/
theorem Downloads.ext_get? {first second : Downloads}
    (same : ∀ format, first.get? format = second.get? format) : first = second := by
  obtain ⟨csv, csvw, xls, xlsx, txt⟩ := first
  obtain ⟨otherCsv, otherCsvw, otherXls, otherXlsx, otherTxt⟩ := second
  obtain rfl : csv = otherCsv := same .csv
  obtain rfl : csvw = otherCsvw := same .csvw
  obtain rfl : xls = otherXls := same .xls
  obtain rfl : xlsx = otherXlsx := same .xlsx
  obtain rfl : txt = otherTxt := same .txt
  rfl

namespace Merge

theorem text_text (stored update : String) :
    text (text stored update) update = text stored update := by
  unfold text
  cases update.isEmpty <;> rfl

theorem downloads_downloads (stored update : Option Downloads) :
    downloads (downloads stored update) update = downloads stored update := by
  have again (given fallback : Downloads) (filled : ∀ format,
      fallback.get? format = given.get? format ∨ given.get? format = none) :
      given.fillMissingFrom fallback = fallback := by
    refine Downloads.ext_get? fun format => ?_
    rw [Downloads.get?_fillMissingFrom]
    rcases filled format with same | missing
    · rw [same]
      cases given.get? format <;> rfl
    · rw [missing]
      rfl
  cases update with
  | none => rfl
  | some given =>
    cases stored with
    | none => exact congrArg some (again given given fun _ => .inl rfl)
    | some stored =>
      refine congrArg some (again given _ fun format => ?_)
      rw [Downloads.get?_fillMissingFrom]
      cases given.get? format with
      | none => exact .inr rfl
      | some download => exact .inl rfl

theorem links_version (stored update : Option VersionLinks) :
    (links stored update).bind (·.version) = stored.bind (·.version) := by
  unfold links
  cases update.bind (·.spatial) with
  | none => rfl
  | some spatial => cases stored <;> rfl

end Merge

namespace Version

/-- Two versions agree in everything that a publication goes by. -/
structure SameRelease (first second : Version) : Prop where
  id : first.id = second.id
  number : first.number = second.number
  type : first.type = second.type
  state : first.state = second.state
  releaseDate : first.releaseDate = second.releaseDate
  downloads : first.downloads = second.downloads
  link : first.versionLink = second.versionLink

theorem SameRelease.refl (version : Version) : SameRelease version version :=
  ⟨rfl, rfl, rfl, rfl, rfl, rfl, rfl⟩

theorem SameRelease.symm {first second : Version} (same : SameRelease first second) :
    SameRelease second first :=
  ⟨same.id.symm, same.number.symm, same.type.symm, same.state.symm, same.releaseDate.symm,
    same.downloads.symm, same.link.symm⟩

theorem SameRelease.trans {first second third : Version} (same : SameRelease first second)
    (next : SameRelease second third) : SameRelease first third :=
  ⟨same.id.trans next.id, same.number.trans next.number, same.type.trans next.type,
    same.state.trans next.state, same.releaseDate.trans next.releaseDate,
    same.downloads.trans next.downloads, same.link.trans next.link⟩

theorem SameRelease.validate {first second : Version} (same : SameRelease first second) :
    first.validate = second.validate := by
  have missing : first.missingFields = second.missingFields := by
    simp only [missingFields, same.releaseDate, same.downloads]
  simp only [Version.validate, same.state, same.type, missing]

/-- An update that is merged into its own result makes the same release. -/
theorem sameRelease_combine_stamp (now : Timestamp) (stored update : Version) :
    SameRelease (combine (stamp now stored (combine stored update)) update)
      (combine stored update) where
  id := rfl
  number := rfl
  type := rfl
  state := by
    show (update.state <|> (update.state <|> stored.state)) = (update.state <|> stored.state)
    cases update.state <;> rfl
  releaseDate := Merge.text_text stored.releaseDate update.releaseDate
  downloads := Merge.downloads_downloads stored.downloads update.downloads
  link := Merge.links_version (Merge.links stored.links update.links) update.links

/-- The built-in rules let a published version be published again. -/
theorem check_published_builtIn (type : DatasetType) :
    TransitionTable.builtIn.check (some .published) .published type = .ok () := by
  cases type <;> rfl

end Version

/-! ### Promoting again -/

/-- The half without its date. -/
def EditionHalf.undated (half : EditionHalf) : EditionHalf :=
  { half with lastUpdated := none }

/-- The edition without its dates and its tag. -/
def Edition.undated (edition : Edition) : Edition :=
  { edition with
    current := edition.current.map EditionHalf.undated
    next := edition.next.map EditionHalf.undated
    eTag := "" }

/-- The half without its date. -/
def DatasetHalf.undated (half : DatasetHalf) : DatasetHalf :=
  { half with lastUpdated := none }

/-- The dataset without its dates. -/
def Dataset.undated (dataset : Dataset) : Dataset :=
  { dataset with
    current := dataset.current.map DatasetHalf.undated
    next := dataset.next.map DatasetHalf.undated }

namespace Edition

theorem undated_promote (edition : Edition) (now later : Timestamp) (link : Option Link) :
    (edition.promote now link).1.stamp.undated = (edition.promote later link).1.stamp.undated := by
  by_cases leads : Link.Leads link
  · obtain ⟨target, rfl, aimed⟩ := leads
    rw [promote_of_leads _ _ aimed, promote_of_leads _ _ aimed]
    rfl
  · rw [promote_of_not_leads _ _ leads, promote_of_not_leads _ _ leads]

theorem undated_promote_promote (edition : Edition) (now later : Timestamp)
    (link : Option Link) :
    ((edition.promote now link).1.stamp.promote later link).1.stamp.undated =
      (edition.promote later link).1.stamp.undated := by
  by_cases leads : Link.Leads link
  · obtain ⟨target, rfl, aimed⟩ := leads
    rw [promote_of_leads _ _ aimed, promote_of_leads _ _ aimed, promote_of_leads _ _ aimed]
    rfl
  · rw [promote_of_not_leads _ _ leads, promote_of_not_leads _ _ leads,
      promote_of_not_leads _ _ leads]
    rfl

end Edition

namespace Dataset

theorem undated_promote (dataset : Dataset) (now later : Timestamp) (version : Version)
    (key : String) :
    undated { dataset.promote now version with id := key } =
      undated { dataset.promote later version with id := key } := rfl

theorem undated_promote_promote (dataset : Dataset) (now later : Timestamp) (version : Version)
    (key : String) :
    undated { promote { dataset.promote now version with id := key } later version with
      id := key } = undated { dataset.promote later version with id := key } := rfl

/-- A promotion goes by the release alone. -/
theorem promote_of_sameRelease {first second : Version} (same : first.SameRelease second)
    (dataset : Dataset) (now : Timestamp) :
    dataset.promote now first = dataset.promote now second := by
  unfold promote DatasetHalf.publish DatasetHalf.withLatestVersion Version.versionHref
  rw [same.number, same.link]

end Dataset

end ReleaseCatalog
