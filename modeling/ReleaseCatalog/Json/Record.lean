/-
Records as JSON: how a document with a fixed list of fields is written as an object, and how it is
read back from an object or from an array of its fields in order. Writing leaves out fields that
are absent; reading skips members with unknown keys and refuses a known key that is given twice.
-/

import ReleaseCatalog.Json.Printer

namespace ReleaseCatalog.Json

/-- The members of an object that is written, in their order. -/
abbrev Members := List (String × Json)

/-- A member that is always written. -/
def member (key : String) (value : Json) : Members :=
  [(key, value)]

/-- A member that is left out when absent. -/
def optional (key : String) (encode : α → Json) : Option α → Members
  | none => []
  | some value => [(key, encode value)]

/-- A text that is left out when empty. -/
def unlessEmpty (key : String) (text : String) : Members :=
  if text.isEmpty then [] else [(key, .string text)]

/-- A list that is left out when absent, though not when empty. -/
def optionalList (key : String) (encode : α → Json) (items : Option (List α)) : Members :=
  optional key (fun items => .array (items.map encode)) items

/-- The fields of a record as they were given, by name. -/
structure Fields where
  given : List (String × Json)

namespace Fields

/-- Whether two of the members have the same key. -/
def repeats : List (String × Json) → Bool
  | [] => false
  | (key, _) :: rest => rest.any (fun other => other.1 == key) || repeats rest

/-- The fields with these names that a value gives: an object gives them by key, and an array by
position, where trailing ones may be missing but none may be left over. -/
def read? (names : List String) : Json → Option Fields
  | .object members =>
    let known := members.filter fun member => names.contains member.1
    if repeats known then none else some ⟨known⟩
  | .array items => if names.length < items.length then none else some ⟨names.zip items⟩
  | _ => none

/-- The value given for a field. -/
def get? (fields : Fields) (name : String) : Option Json :=
  fields.given.lookup name

/-- A field that must be given. -/
def required (fields : Fields) (name : String) (decode : Json → Option α) : Option α :=
  match fields.get? name with
  | none => none
  | some value => decode value

/-- A field that stands for a default when it is not given; a given one must decode. -/
def orElse (fields : Fields) (name : String) (decode : Json → Option α) (default : α) : Option α :=
  match fields.get? name with
  | none => some default
  | some value => decode value

/-- A text that is empty when not given. -/
def text (fields : Fields) (name : String) : Option String :=
  fields.orElse name Json.text? ""

/-- A field that may be absent; null is the same as not given. -/
def optional (fields : Fields) (name : String) (decode : Json → Option α) : Option (Option α) :=
  match fields.get? name with
  | none => some none
  | some .null => some none
  | some value => (decode value).map some

end Fields

/-- A list of which every item must decode. -/
def decodeList (decode : Json → Option α) : Json → Option (List α)
  | .array items => items.mapM decode
  | _ => none

/-- A whole number below `2 ^ 32` that is written with digits only; a sign, a fraction or an
exponent is refused. -/
def decodeCount : Json → Option UInt32
  | .number literal =>
    let numeral := literal.toList
    if numeral.all Decimal.isDigit && Decimal.value numeral < 4294967296 then
      some (UInt32.ofNat (Decimal.value numeral))
    else none
  | _ => none

/-- The number as JSON. -/
def ofCount (number : UInt32) : Json :=
  ofNat number.toNat

end ReleaseCatalog.Json
