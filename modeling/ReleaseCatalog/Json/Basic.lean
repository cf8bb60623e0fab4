/-
JSON values. A number keeps its literal, because the documents of the catalog admit whole numbers
only and must tell `1` from `1.0`. A string is a sequence of Unicode characters; a literal that
escapes half of a surrogate pair denotes no such sequence and is read as `unreadable`, which every
decoder refuses and which may stand wherever a value is skipped.
-/

namespace ReleaseCatalog

/-- A JSON value. The members of an object keep their order and may repeat. -/
inductive Json where
  | null
  | bool (value : Bool)
  | number (literal : String)
  | string (text : String)
  | array (items : List Json)
  | object (members : List (String × Json))
  | unreadable
  deriving Inhabited

namespace Json

/-- The string of the value, if it is one. -/
def text? : Json → Option String
  | .string text => some text
  | _ => none

/-- The truth value, if it is one. -/
def bool? : Json → Option Bool
  | .bool value => some value
  | _ => none

/-- The items, if the value is an array. -/
def items? : Json → Option (List Json)
  | .array items => some items
  | _ => none

/-- The members, if the value is an object. -/
def members? : Json → Option (List (String × Json))
  | .object members => some members
  | _ => none

/-- The member of an object with the given key. -/
def get? (key : String) : Json → Option Json
  | .object members => members.lookup key
  | _ => none

/-- The array of the given strings. -/
def strings (texts : List String) : Json :=
  .array (texts.map .string)

/-- The value, or null for none. -/
def ofOption (value : Option Json) : Json :=
  value.getD .null

end Json

end ReleaseCatalog
