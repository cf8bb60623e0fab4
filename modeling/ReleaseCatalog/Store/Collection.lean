/-
Collections of documents by key. A collection remembers the order in which its keys were first
used; replacing a document keeps its place. What matters is the lookup, and what each operation
does to it is said by the lemmas here.
-/

namespace ReleaseCatalog

/-- Documents by key, in the order in which the keys were first used. -/
structure Collection (κ ν : Type) where
  entries : List (κ × ν) := []
  deriving Repr

namespace Collection

variable {κ ν : Type} [DecidableEq κ]

instance : Inhabited (Collection κ ν) := ⟨{}⟩

/-- The document under a key. -/
def get? (collection : Collection κ ν) (key : κ) : Option ν :=
  collection.entries.lookup key

/-- Replaces the document under a key, or appends it when the key is new. -/
def putEntry (key : κ) (value : ν) : List (κ × ν) → List (κ × ν)
  | [] => [(key, value)]
  | (other, old) :: rest =>
    if other = key then (key, value) :: rest else (other, old) :: putEntry key value rest

/-- The collection with a document under a key. -/
def put (collection : Collection κ ν) (key : κ) (value : ν) : Collection κ ν :=
  ⟨putEntry key value collection.entries⟩

/-- The collection with the document under a key changed, if there is one. -/
def modify (collection : Collection κ ν) (key : κ) (change : ν → ν) : Collection κ ν :=
  match collection.get? key with
  | none => collection
  | some value => collection.put key (change value)

/-- The collection without the document under a key. -/
def erase (collection : Collection κ ν) (key : κ) : Collection κ ν :=
  ⟨collection.entries.filter fun entry => entry.1 ≠ key⟩

theorem lookup_putEntry_self (key : κ) (value : ν) (entries : List (κ × ν)) :
    (putEntry key value entries).lookup key = some value := by
  induction entries with
  | nil => simp [putEntry]
  | cons entry rest ih =>
    obtain ⟨other, old⟩ := entry
    by_cases same : other = key
    · simp [putEntry, same]
    · have differ : (key == other) = false := by simp [Ne.symm same]
      simp [putEntry, same, List.lookup_cons, differ, ih]

theorem lookup_putEntry_other {key other : κ} (differ : other ≠ key) (value : ν)
    (entries : List (κ × ν)) :
    (putEntry key value entries).lookup other = entries.lookup other := by
  induction entries with
  | nil =>
    have apart : (other == key) = false := by simp [differ]
    simp [putEntry, List.lookup_cons, apart]
  | cons entry rest ih =>
    obtain ⟨first, old⟩ := entry
    by_cases same : first = key
    · subst same
      have apart : (other == first) = false := by simp [differ]
      simp [putEntry, List.lookup_cons, apart]
    · by_cases here : (other == first) = true <;> simp [putEntry, same, List.lookup_cons, here, ih]

theorem putEntry_of_new {key : κ} {entries : List (κ × ν)} (new : entries.lookup key = none)
    (value : ν) : putEntry key value entries = entries ++ [(key, value)] := by
  induction entries with
  | nil => rfl
  | cons entry rest ih =>
    obtain ⟨other, old⟩ := entry
    by_cases same : other = key
    · simp [same] at new
    · have differ : (key == other) = false := by simp [Ne.symm same]
      simp only [List.lookup_cons, differ] at new
      simp [putEntry, same, ih new]

/-- A document under a new key comes last. -/
theorem entries_put_of_new {collection : Collection κ ν} {key : κ}
    (new : collection.get? key = none) (value : ν) :
    (collection.put key value).entries = collection.entries ++ [(key, value)] :=
  putEntry_of_new new value

/-- Nothing is found under keys that were not used. -/
theorem get?_eq_none_iff {collection : Collection κ ν} {key : κ} :
    collection.get? key = none ↔ key ∉ collection.entries.map Prod.fst := by
  unfold get?
  rw [List.lookup_eq_none_iff]
  constructor
  · intro apart member
    obtain ⟨entry, listed, rfl⟩ := List.mem_map.mp member
    simpa using apart entry listed
  · intro unused entry listed
    exact bne_iff_ne.mpr fun same => unused (same ▸ List.mem_map_of_mem listed)

/-- Where no key was used twice, the document that is found under a key is the one that there is. -/
theorem get?_eq_some_iff {collection : Collection κ ν}
    (distinct : (collection.entries.map Prod.fst).Nodup) {key : κ} {value : ν} :
    collection.get? key = some value ↔ (key, value) ∈ collection.entries := by
  unfold get?
  rw [List.lookup_eq_some_iff]
  constructor
  · rintro ⟨before, after, split, -⟩
    rw [split]
    exact List.mem_append_right _ List.mem_cons_self
  · intro member
    obtain ⟨before, after, split⟩ := List.append_of_mem member
    refine ⟨before, after, split, fun entry earlier => ?_⟩
    rw [split, List.map_append, List.nodup_append] at distinct
    simpa using (distinct.2.2 _ (List.mem_map_of_mem earlier) _ List.mem_cons_self).symm

/-- A stored document is found under its key. -/
theorem get?_put_self (collection : Collection κ ν) (key : κ) (value : ν) :
    (collection.put key value).get? key = some value :=
  lookup_putEntry_self key value collection.entries

/-- Storing a document does not touch the other keys. -/
theorem get?_put_other (collection : Collection κ ν) {key other : κ} (differ : other ≠ key)
    (value : ν) : (collection.put key value).get? other = collection.get? other :=
  lookup_putEntry_other differ value collection.entries

/-- Changing a document does not touch the other keys. -/
theorem get?_modify_other (collection : Collection κ ν) {key other : κ} (differ : other ≠ key)
    (change : ν → ν) : (collection.modify key change).get? other = collection.get? other := by
  unfold modify
  cases collection.get? key with
  | none => rfl
  | some value => exact get?_put_other collection differ (change value)

/-- Changing the document under a key applies the change to what is found there. -/
theorem get?_modify_self (collection : Collection κ ν) (key : κ) (change : ν → ν) :
    (collection.modify key change).get? key = (collection.get? key).map change := by
  unfold modify
  cases found : collection.get? key with
  | none => simp [found]
  | some value => simp [get?_put_self]

theorem lookup_filter_other {key other : κ} (differ : other ≠ key) (entries : List (κ × ν)) :
    (entries.filter fun entry => entry.1 ≠ key).lookup other = entries.lookup other := by
  induction entries with
  | nil => rfl
  | cons entry rest ih =>
    obtain ⟨first, value⟩ := entry
    by_cases same : first = key
    · subst same
      have apart : (other == first) = false := by simp [differ]
      simpa [List.lookup_cons, apart] using ih
    · by_cases here : (other == first) = true <;> simp_all [List.lookup_cons]

theorem lookup_filter_self (key : κ) (entries : List (κ × ν)) :
    (entries.filter fun entry => entry.1 ≠ key).lookup key = none := by
  induction entries with
  | nil => rfl
  | cons entry rest ih =>
    obtain ⟨first, value⟩ := entry
    by_cases same : first = key
    · simpa [same] using ih
    · have apart : (key == first) = false := by simp [Ne.symm same]
      simpa [same, List.lookup_cons, apart] using ih

/-- An erased document is not found any more. -/
theorem get?_erase_self (collection : Collection κ ν) (key : κ) :
    (collection.erase key).get? key = none :=
  lookup_filter_self key collection.entries

/-- Erasing a document does not touch the other keys. -/
theorem get?_erase_other (collection : Collection κ ν) {key other : κ} (differ : other ≠ key) :
    (collection.erase key).get? other = collection.get? other :=
  lookup_filter_other differ collection.entries

end Collection

end ReleaseCatalog
