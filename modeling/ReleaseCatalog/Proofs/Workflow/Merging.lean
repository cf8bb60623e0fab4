/-
The laws of merging. An update that is merged a second time only adds its notes again; an update
that gives nothing changes nothing, but that a published version loses a collection it should not
have had; and updates that do not give the same thing may be merged in either order, as long as
nothing is published, which would clear a collection on the way.

Each kind of field has its own rule, so that each law is shown for each rule first.
-/

import ReleaseCatalog.Proofs.Workflow.Growth
import ReleaseCatalog.Proofs.Workflow.Republishing

namespace ReleaseCatalog

namespace Merge

variable {α : Type}

/-! ### The same update again -/

theorem list_list (stored update : Option (List α)) :
    list (list stored update) update = list stored update := by
  match update with
  | none => rfl
  | some [] => rfl
  | some (item :: items) => rfl

theorem append_append (stored update : Option (List α)) :
    append (append stored update) update =
      (append stored update).map (· ++ update.getD []) := by
  cases stored <;> cases update <;> rfl

theorem links_links (stored update : Option VersionLinks) :
    links (links stored update) update = links stored update := by
  unfold links
  cases update.bind (·.spatial) with
  | none => rfl
  | some spatial => rfl

/-- A published version has lost its collection at the first merge, and others keep what they
got. -/
theorem collection_text_collection (state : Option State) (stored update : String) :
    collection state (text (collection state (text stored update)) update) =
      collection state (text stored update) := by
  unfold collection
  by_cases published : state = some .published
  · rw [if_pos published, if_pos published]
  · rw [if_neg published, if_neg published, text_text]

/-! ### Two updates in either order -/

/-- What is asked of two sources first, of which one has nothing, may be asked of them in either
order. -/
theorem orElse_left_comm {first second : Option α} (apart : first = none ∨ second = none)
    (stored : Option α) : (second <|> (first <|> stored)) = (first <|> (second <|> stored)) := by
  rcases apart with rfl | rfl
  · rfl
  · cases first <;> rfl

theorem text_comm {first second : String} (apart : first = "" ∨ second = "") (stored : String) :
    text (text stored first) second = text (text stored second) first := by
  rcases apart with rfl | rfl <;> rfl

theorem list_comm {first second : Option (List α)}
    (apart : first.getD [] = [] ∨ second.getD [] = []) (stored : Option (List α)) :
    list (list stored first) second = list (list stored second) first := by
  have idle {update : Option (List α)} (empty : update.getD [] = []) (kept : Option (List α)) :
      list kept update = kept := by
    match update, empty with
    | none, _ | some [], _ => rfl
  rcases apart with empty | empty
  · rw [idle empty, idle empty]
  · rw [idle empty, idle empty]

/-- Absent lists and empty ones are told apart, though nothing is in either. -/
theorem eq_of_getD {first second : Option (List α)} (present : first.isSome = second.isSome)
    (same : first.getD [] = second.getD []) : first = second := by
  cases first <;> cases second <;> simp_all

theorem isSome_append (stored update : Option (List α)) :
    (append stored update).isSome = (stored.isSome || update.isSome) := by
  cases stored <;> cases update <;> rfl

theorem append_comm {first second : Option (List α)}
    (apart : first.getD [] = [] ∨ second.getD [] = []) (stored : Option (List α)) :
    append (append stored first) second = append (append stored second) first := by
  refine eq_of_getD ?_ ?_
  · simp only [isSome_append]
    exact Bool.or_right_comm _ _ _
  · simp only [append_getD]
    rcases apart with empty | empty
    · rw [empty, List.append_nil, List.append_nil]
    · rw [empty, List.append_nil, List.append_nil]

/-- Downloads in different formats may be merged in either order. -/
theorem downloads_comm {first second : Option Downloads}
    (apart : ∀ format, first.bind (·.get? format) = none ∨ second.bind (·.get? format) = none)
    (stored : Option Downloads) :
    downloads (downloads stored first) second = downloads (downloads stored second) first := by
  match first, second with
  | none, _ | some _, none => cases stored <;> rfl
  | some first, some second =>
    match stored with
    | none =>
      refine congrArg some (Downloads.ext_get? fun format => ?_)
      rw [Downloads.get?_fillMissingFrom, Downloads.get?_fillMissingFrom]
      simpa using orElse_left_comm (apart format) none
    | some stored =>
      refine congrArg some (Downloads.ext_get? fun format => ?_)
      simp only [Downloads.get?_fillMissingFrom]
      exact orElse_left_comm (apart format) (stored.get? format)

theorem links_comm {first second : Option VersionLinks}
    (apart : first.bind (·.spatial) = none ∨ second.bind (·.spatial) = none)
    (stored : Option VersionLinks) :
    links (links stored first) second = links (links stored second) first := by
  have idle {update : Option VersionLinks} (empty : update.bind (·.spatial) = none)
      (kept : Option VersionLinks) : links kept update = kept := by
    unfold links
    rw [empty]
  rcases apart with empty | empty
  · rw [idle empty, idle empty]
  · rw [idle empty, idle empty]

end Merge

namespace Version

/-- The spatial link, if it is set. -/
def spatialLink (version : Version) : Option Link :=
  version.links.bind (·.spatial)

/-- Nothing is given by both of two updates. What an update says of identity and type, and of links
but the spatial one, it does not give. -/
structure GiveApart (first second : Version) : Prop where
  state : first.state = none ∨ second.state = none
  collectionId : first.collectionId = "" ∨ second.collectionId = ""
  releaseDate : first.releaseDate = "" ∨ second.releaseDate = ""
  temporal : first.temporal.getD [] = [] ∨ second.temporal.getD [] = []
  alerts : first.alerts.getD [] = [] ∨ second.alerts.getD [] = []
  latestChanges : first.latestChanges.getD [] = [] ∨ second.latestChanges.getD [] = []
  usageNotes : first.usageNotes.getD [] = [] ∨ second.usageNotes.getD [] = []
  downloads (format : Format) : first.download? format = none ∨ second.download? format = none
  spatialLink : first.spatialLink = none ∨ second.spatialLink = none

theorem combine_combine (stored update : Version) :
    combine (combine stored update) update =
      { combine stored update with
        alerts := (combine stored update).alerts.map (· ++ update.alerts.getD [])
        latestChanges :=
          (combine stored update).latestChanges.map (· ++ update.latestChanges.getD []) } := by
  have state : (update.state <|> (update.state <|> stored.state)) =
      (update.state <|> stored.state) := by
    cases update.state <;> rfl
  unfold combine
  simp only [state, Merge.collection_text_collection, Merge.text_text, Merge.list_list,
    Merge.append_append, Merge.downloads_downloads, Merge.links_links]

theorem combine_empty (stored : Version) :
    combine stored {} =
      { stored with collectionId := Merge.collection stored.state stored.collectionId } := by
  have added {α : Type} (kept : Option (List α)) : Merge.append kept none = kept := by
    cases kept with
    | none => rfl
    | some items => exact congrArg some (List.append_nil items)
  simp only [combine, added]
  rfl

theorem combine_comm {stored first second : Version} (apart : GiveApart first second)
    (storedOpen : stored.state ≠ some .published) (firstOpen : first.state ≠ some .published)
    (secondOpen : second.state ≠ some .published) :
    combine (combine stored first) second = combine (combine stored second) first := by
  -- Nothing is published on either way, so that the collection is a text like any other.
  have kept {state : Option State} (unpublished : state ≠ some .published) (id : String) :
      Merge.collection state id = id := if_neg unpublished
  have merged {given before : Option State} (givenOpen : given ≠ some .published)
      (beforeOpen : before ≠ some .published) : (given <|> before) ≠ some .published := by
    cases given with
    | none => exact beforeOpen
    | some state => exact givenOpen
  have afterFirst := merged firstOpen storedOpen
  have afterSecond := merged secondOpen storedOpen
  unfold combine
  simp only [Merge.orElse_left_comm apart.state, kept afterFirst, kept afterSecond,
    kept (merged firstOpen afterSecond), Merge.text_comm apart.collectionId,
    Merge.text_comm apart.releaseDate, Merge.list_comm apart.temporal,
    Merge.append_comm apart.alerts, Merge.append_comm apart.latestChanges,
    Merge.list_comm apart.usageNotes, Merge.downloads_comm apart.downloads,
    Merge.links_comm apart.spatialLink]

/-- The laws of merging: an update merged again adds its alerts and latest changes once more and
changes nothing else; the empty update changes nothing, but that it takes a published version out
of its collection; and updates that give nothing twice commute while nothing is published. -/
theorem combine_laws (stored update : Version) :
    combine (combine stored update) update =
        { combine stored update with
          alerts := (combine stored update).alerts.map (· ++ update.alerts.getD [])
          latestChanges :=
            (combine stored update).latestChanges.map (· ++ update.latestChanges.getD []) } ∧
      combine stored {} =
        (if stored.state = some .published ∧ stored.collectionId ≠ "" then
          { stored with collectionId := "" }
        else stored) ∧
      ∀ other : Version, GiveApart update other →
        (∀ version ∈ [stored, update, other], version.state ≠ some .published) →
        combine (combine stored update) other = combine (combine stored other) update := by
  refine ⟨combine_combine stored update, ?_, fun other apart unpublished => ?_⟩
  · rw [combine_empty, Merge.collection]
    by_cases published : stored.state = some .published
    · by_cases alone : stored.collectionId = ""
      · rw [if_pos published, if_neg fun both => both.2 alone, ← alone]
      · rw [if_pos published, if_pos ⟨published, alone⟩]
    · rw [if_neg published, if_neg fun both => published both.1]
  · exact combine_comm apart (unpublished stored (by simp)) (unpublished update (by simp))
      (unpublished other (by simp))

/-- A correction with a new table and a date with a new CSV file may come in either order. -/
theorem combine_laws_sample :
    let stored : Version := {
      id := "instance-1", state := some .editionConfirmed, collectionId := "collection-1"
      alerts := some [{ description := "first" }]
      downloads := some { csv := some { href := "a.csv" }, txt := some { href := "a.txt" } } }
    let update : Version := {
      alerts := some [{ description := "corrected" }], temporal := some []
      downloads := some { xlsx := some { href := "b.xlsx" } } }
    let other : Version := {
      state := some .associated, releaseDate := "2024-01-17", alerts := some []
      downloads := some { csv := some { href := "b.csv" } }
      links := some { spatial := some { href := "/areas" } } }
    GiveApart update other ∧
      (∀ version ∈ [stored, update, other], version.state ≠ some .published) ∧
      combine (combine stored update) other = combine (combine stored other) update := by
  intro stored update other
  have apart : GiveApart update other :=
    ⟨.inl rfl, .inl rfl, .inl rfl, .inl rfl, .inr rfl, .inl rfl, .inl rfl,
      fun format => by cases format <;> decide, .inl rfl⟩
  have unpublished : ∀ version ∈ [stored, update, other], version.state ≠ some .published := by
    decide
  exact ⟨apart, unpublished, (combine_laws stored update).2.2 other apart unpublished⟩

end Version

end ReleaseCatalog
