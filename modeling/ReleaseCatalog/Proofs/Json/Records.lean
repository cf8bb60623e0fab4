/-
Records that are written as objects and read back. A record is written as a list of entries, some
of which are left out; whatever is left out, each entry is found again under its key, and says the
same as before it was written. What a type needs for that is stated once, as a codec, and from the
codecs of its fields follows the one of a record.
-/

import ReleaseCatalog.Json.Record
import ReleaseCatalog.Proofs.Json.Reading

namespace ReleaseCatalog.Json

/-- Values of a type can be written and read back. What is written is not null, which would stand
for an absent value. -/
class Codec {α : Type} (encode : α → Json) (decode : outParam (Json → Option α)) : Prop where
  decodes (value : α) : decode (encode value) = some value
  plain (value : α) : (encode value).Plain
  present (value : α) : encode value ≠ .null

namespace Codec

variable {α : Type} {encode : α → Json} {decode : Json → Option α}

/-- The text of a document is read back as the document. -/
theorem decode?_render (codec : Codec encode decode) (value : α) :
    decode? decode (encode value).render = some value := by
  unfold decode?
  rw [(codec.plain value).parse?_render, Option.bind_some, codec.decodes]

/-- Documents with the same text are the same. -/
theorem render_injective (codec : Codec encode decode) :
    Function.Injective fun value => (encode value).render := by
  intro first second same
  have decoded := congrArg (decode? decode) same
  simpa only [codec.decode?_render, Option.some_inj] using decoded

end Codec

/-! ### Values of fields -/

instance : Codec Json.string Json.text? where
  decodes _ := rfl
  plain := .string
  present _ := nofun

instance : Codec Json.bool Json.bool? where
  decodes _ := rfl
  plain := .bool
  present _ := nofun

instance : Codec ofCount decodeCount where
  decodes number := by
    have digits : (Decimal.digits number.toNat).all Decimal.isDigit = true :=
      List.all_eq_true.mpr fun _ => Decimal.isDigit_of_mem_digits
    have small : number.toNat < 4294967296 := number.toNat_lt
    show (if ((Decimal.text number.toNat).toList.all Decimal.isDigit && _) = true then _ else _) = _
    rw [Decimal.text, String.toList_ofList, digits, Decimal.value_digits]
    simp [small]
  plain number := .whole number.toNat
  present _ := nofun

/-- A list, written as an array. -/
def ofList {α : Type} (encode : α → Json) (items : List α) : Json :=
  .array (items.map encode)

instance {α : Type} {encode : α → Json} {decode : Json → Option α} [codec : Codec encode decode] :
    Codec (ofList encode) (decodeList decode) where
  decodes items := by
    show (items.map encode).mapM decode = some items
    induction items with
    | nil => rfl
    | cons item items inductionHypothesis =>
      rw [List.map_cons, List.mapM_cons, inductionHypothesis, codec.decodes]
      rfl
  plain items := .array fun item member => by
    obtain ⟨value, -, rfl⟩ := List.mem_map.mp member
    exact codec.plain value
  present _ := nofun

/-! ### Entries -/

/-- One entry of a record: its key, the members that are written for it, none or one, and the value
that they give. -/
structure Entry where
  key : String
  members : Members
  value : Option Json
  written : members = (value.map (key, ·)).toList
  plain : ∀ given ∈ value, given.Plain

namespace Entry

variable {α : Type}

/-- An entry that is always written. -/
def always (key : String) (encode : α → Json) {decode : Json → Option α}
    [codec : Codec encode decode] (value : α) : Entry where
  key := key
  members := member key (encode value)
  value := some (encode value)
  written := rfl
  plain := by
    rintro _ ⟨⟩
    exact codec.plain value

/-- An entry that is left out when absent. -/
def optional (key : String) (encode : α → Json) {decode : Json → Option α}
    [codec : Codec encode decode] (value : Option α) : Entry where
  key := key
  members := Json.optional key encode value
  value := value.map encode
  written := by cases value <;> rfl
  plain := by
    intro given there
    obtain ⟨inner, -, rfl⟩ := Option.map_eq_some_iff.mp there
    exact codec.plain inner

/-- A text that is left out when empty. -/
def unlessEmpty (key text : String) : Entry where
  key := key
  members := Json.unlessEmpty key text
  value := if text.isEmpty then none else some (.string text)
  written := by
    unfold Json.unlessEmpty
    split <;> rfl
  plain := by
    intro given there
    split at there
    · cases there
    · cases there
      exact .string text

@[simp]
theorem always_key (key : String) (encode : α → Json) {decode : Json → Option α}
    [Codec encode decode] (value : α) : (always key encode value).key = key := rfl

@[simp]
theorem optional_key (key : String) (encode : α → Json) {decode : Json → Option α}
    [Codec encode decode] (value : Option α) : (optional key encode value).key = key := rfl

@[simp]
theorem unlessEmpty_key (key text : String) : (unlessEmpty key text).key = key := rfl

/-- The members that are written for entries, one after another. -/
def writtenAll (entries : List Entry) : Members :=
  entries.foldl (fun members entry => members ++ entry.members) []

theorem writtenAll_eq_flatMap (entries : List Entry) :
    writtenAll entries = entries.flatMap (·.members) :=
  List.flatMap_eq_foldl.symm

/-- The keys that are written are keys of entries, in their order. -/
theorem keys_writtenAll (entries : List Entry) :
    ((writtenAll entries).map Prod.fst).Sublist (entries.map (·.key)) := by
  rw [writtenAll_eq_flatMap]
  induction entries with
  | nil => exact List.Sublist.slnil
  | cons entry entries inductionHypothesis =>
    have own : (entry.members.map Prod.fst).Sublist [entry.key] := by
      rw [entry.written]
      cases entry.value with
      | none => exact List.nil_sublist _
      | some => exact List.Sublist.refl _
    rw [List.flatMap_cons, List.map_append]
    exact own.append inductionHypothesis

theorem lookup_members_self (entry : Entry) : entry.members.lookup entry.key = entry.value := by
  rw [entry.written]
  cases entry.value <;> simp

theorem lookup_members_other (entry : Entry) {name : String} (other : name ≠ entry.key) :
    entry.members.lookup name = none := by
  have differ : (name == entry.key) = false := beq_eq_false_iff_ne.mpr other
  rw [entry.written]
  cases entry.value <;> simp [List.lookup_cons, differ]

theorem lookup_flatMap_none {entries : List Entry} {name : String}
    (unknown : name ∉ entries.map (·.key)) :
    (entries.flatMap (·.members)).lookup name = none := by
  induction entries with
  | nil => rfl
  | cons first entries inductionHypothesis =>
    rw [List.map_cons, List.mem_cons, not_or] at unknown
    rw [List.flatMap_cons, List.lookup_append, lookup_members_other first unknown.1,
      inductionHypothesis unknown.2]
    rfl

/-- Every entry gives its value under its key. -/
theorem lookup_writtenAll {entries : List Entry} (distinct : (entries.map (·.key)).Nodup)
    {entry : Entry} (member : entry ∈ entries) :
    (writtenAll entries).lookup entry.key = entry.value := by
  rw [writtenAll_eq_flatMap]
  induction entries with
  | nil => cases member
  | cons first entries inductionHypothesis =>
    rw [List.map_cons, List.nodup_cons] at distinct
    rw [List.flatMap_cons, List.lookup_append]
    rcases List.mem_cons.mp member with rfl | later
    · rw [lookup_members_self, lookup_flatMap_none distinct.1, Option.or_none]
    · have other : entry.key ≠ first.key := fun same =>
        distinct.1 (same ▸ List.mem_map_of_mem later)
      rw [lookup_members_other first other, Option.none_or, inductionHypothesis distinct.2 later]

theorem plain_writtenAll (entries : List Entry) :
    ∀ member ∈ writtenAll entries, member.2.Plain := by
  rw [writtenAll_eq_flatMap]
  intro member there
  obtain ⟨entry, -, own⟩ := List.mem_flatMap.mp there
  rw [entry.written, Option.mem_toList, Option.map_eq_some_iff] at own
  obtain ⟨value, given, rfl⟩ := own
  exact entry.plain value given

end Entry

namespace Fields

theorem repeats_eq_false {members : Members} (distinct : (members.map Prod.fst).Nodup) :
    repeats members = false := by
  induction members with
  | nil => rfl
  | cons member members inductionHypothesis =>
    rw [List.map_cons, List.nodup_cons] at distinct
    have alone : members.any (fun other => other.1 == member.1) = false := by
      rw [List.any_eq_false]
      intro other there same
      exact distinct.1 (eq_of_beq same ▸ List.mem_map_of_mem there)
    show (members.any _ || repeats members) = false
    rw [alone, inductionHypothesis distinct.2]
    rfl

/-- The fields of a record that was written are its entries. -/
theorem read?_writtenAll {entries : List Entry} (distinct : (entries.map (·.key)).Nodup) :
    read? (entries.map (·.key)) (.object (Entry.writtenAll entries)) =
      some ⟨Entry.writtenAll entries⟩ := by
  have keys := Entry.keys_writtenAll entries
  have known : (Entry.writtenAll entries).filter (fun member =>
      (entries.map (·.key)).contains member.1) = Entry.writtenAll entries :=
    List.filter_eq_self.mpr fun member there =>
      List.contains_iff_mem.mpr (keys.subset (List.mem_map_of_mem there))
  simp only [read?, known, repeats_eq_false (distinct.sublist keys), Bool.false_eq_true, if_false]

/-! ### What is read for an entry -/

/-- What is understood by a field that stands for a default when it is not given. -/
def orElseOf {α : Type} (decode : Json → Option α) (default : α) : Option Json → Option α
  | none => some default
  | some value => decode value

/-- What is understood by a field that may be absent. -/
def optionalOf {α : Type} (decode : Json → Option α) : Option Json → Option (Option α)
  | none => some none
  | some .null => some none
  | some value => (decode value).map some

variable {α : Type} (fields : Fields) (name : String)

@[simp]
theorem required_eq (decode : Json → Option α) :
    fields.required name decode = (fields.get? name).bind decode := by
  unfold required
  cases fields.get? name <;> rfl

@[simp]
theorem orElse_eq (decode : Json → Option α) (default : α) :
    fields.orElse name decode default = orElseOf decode default (fields.get? name) := by
  unfold orElse
  cases fields.get? name <;> rfl

@[simp]
theorem text_eq : fields.text name = orElseOf Json.text? "" (fields.get? name) :=
  orElse_eq fields name Json.text? ""

@[simp]
theorem optional_eq (decode : Json → Option α) :
    fields.optional name decode = optionalOf decode (fields.get? name) := by
  unfold optional optionalOf
  split <;> simp [*]

variable {encode : α → Json} {decode : Json → Option α} [codec : Codec encode decode]
  (key : String)

@[simp]
theorem bind_always (value : α) : (Entry.always key encode value).value.bind decode = some value :=
  codec.decodes value

@[simp]
theorem orElseOf_always (default value : α) :
    orElseOf decode default (Entry.always key encode value).value = some value :=
  codec.decodes value

@[simp]
theorem orElseOf_unlessEmpty (text : String) :
    orElseOf Json.text? "" (Entry.unlessEmpty key text).value = some text := by
  show orElseOf Json.text? "" (if text.isEmpty then none else some (.string text)) = some text
  split
  · next empty => rw [String.isEmpty_iff.mp empty]; rfl
  · rfl

@[simp]
theorem optionalOf_optional (value : Option α) :
    optionalOf decode (Entry.optional key encode value).value = some value := by
  cases value with
  | none => rfl
  | some value =>
    show optionalOf decode (some (encode value)) = _
    have present := codec.present value
    have decoded := codec.decodes value
    unfold optionalOf
    split <;> simp_all

end Fields

/-- A record that is written by its entries, and of which every field is understood from its entry,
can be written and read back. -/
theorem Codec.ofEntries {α : Type} {encode : α → Json} {decode : Json → Option α}
    {names : List String} (distinct : names.Nodup) (entries : α → List Entry)
    (named : ∀ value, (entries value).map (·.key) = names)
    (shape : ∀ value, encode value = .object (Entry.writtenAll (entries value)))
    {body : Fields → Option α} (reads : ∀ json, decode json = (Fields.read? names json).bind body)
    (understood : ∀ value fields,
      (∀ entry ∈ entries value, fields.get? entry.key = entry.value) → body fields = some value) :
    Codec encode decode where
  decodes value := by
    have apart : ((entries value).map (·.key)).Nodup := (named value).symm ▸ distinct
    rw [reads, shape, ← named value, Fields.read?_writtenAll apart, Option.bind_some]
    exact understood value _ fun entry member => Entry.lookup_writtenAll apart member
  plain value := by
    rw [shape]
    exact .object (Entry.plain_writtenAll _)
  present value := by
    rw [shape]
    exact nofun

end ReleaseCatalog.Json
