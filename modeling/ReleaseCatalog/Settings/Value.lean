/-
The values of settings that are put together from several places. A value of the environment is
only a text, and so texts, numbers and flags stand in for each other where they are read.
-/

import ReleaseCatalog.Settings.Document
import ReleaseCatalog.Text.Fraction

namespace ReleaseCatalog

/-- A value that a layer gives. -/
inductive Setting where
  | absent
  | flag (value : Bool)
  | whole (value : Int)
  | fraction (value : Float)
  | text (value : String)
  | list (items : List Setting)
  | table (entries : List (String × Setting))
  deriving Inhabited

namespace Setting

/-! ### Values as texts -/

/-- The value that a text of the environment stands for. -/
def ofText (text : String) : Setting :=
  let chars := text.toList
  let lower := String.ofList (chars.map Char.toLower)
  if lower == "true" then .flag true
  else if lower == "false" then .flag false
  else match Numeral.int64? 10 chars with
    | some number => .whole number
    | none =>
      match Fraction.read? chars with
      | some value => .fraction value
      | none => .text text

/-- The whole number that a plain scalar denotes, in base ten, sixteen or eight. -/
def plainWhole? (text : List Char) : Option Int :=
  let based := match text with
    | '0' :: 'x' :: rest => Numeral.int64? 16 rest
    | '0' :: 'o' :: rest => Numeral.int64? 8 rest
    | '+' :: rest => Numeral.int64? 10 rest
    | _ => none
  based.or (Numeral.int64? 10 text)

/-- Whether a plain scalar spells out a fraction that has no digits. -/
def isUnbounded (text : String) : Bool :=
  [".inf", ".Inf", ".INF", "+.inf", "+.Inf", "+.INF", "-.inf", "-.Inf", "-.INF", ".nan", ".NaN",
    ".NAN"].contains text

/-- The value of a plain scalar without a tag; fractions without digits are refused. -/
def ofPlain? (text : String) : Option Setting :=
  if ["", "~", "null"].contains text then some .absent
  else if text == "true" then some (.flag true)
  else if text == "false" then some (.flag false)
  else match plainWhole? text.toList with
    | some number => some (.whole number)
    | none =>
      if isUnbounded text then none
      else if !text.toList.any Decimal.isDigit then some (.text text)
      else match Fraction.read? text.toList with
        | some value => some (.fraction value)
        | none => some (.text text)

/-- The value of a plain scalar with a tag; where the two do not agree there is no value. -/
def ofTagged? (tag text : String) : Option Setting :=
  if tag == "tag:yaml.org,2002:bool" then
    some (if text == "true" then .flag true else if text == "false" then .flag false else .absent)
  else if tag == "tag:yaml.org,2002:int" then
    some (((Numeral.int64? 10 text.toList).map Setting.whole).getD .absent)
  else if tag == "tag:yaml.org,2002:float" then
    if isUnbounded text then none
    else some (((Fraction.read? text.toList).map Setting.fraction).getD .absent)
  else if tag == Yaml.nullTag then some .absent
  else some (.text text)

/-- The value of a scalar. -/
def ofScalar? (style : ScalarStyle) (tag : Option String) (text : String) : Option Setting :=
  match style, tag with
  | .quoted, _ => some (Setting.text text)
  | .plain, none => ofPlain? text
  | .plain, some tag => ofTagged? tag text

/-- The name that a key of a table stands for, if it is one. -/
def keyName : Yaml → Option String
  | .scalar style tag written =>
    match ofScalar? style tag written with
    | some (.text name) => some name
    | some (.whole number) => some (Numeral.text number)
    | _ => none
  | _ => none

/-- Whether two keys of a table are the same. -/
def sameKey (first second : Yaml) : Bool :=
  match keyName first, keyName second with
  | some first, some second => first == second
  | _, _ => false

mutual

/-- The value of a document. No key may be repeated. -/
def ofYaml? : Yaml → Option Setting
  | .scalar style tag written => ofScalar? style tag written
  | .sequence items => (ofItems? items).map .list
  | .mapping entries => (ofEntries? entries).map .table

/-- The values of a list. -/
def ofItems? : List Yaml → Option (List Setting)
  | [] => some []
  | item :: items => do
    let first ← ofYaml? item
    let rest ← ofItems? items
    some (first :: rest)

/-- The values of a table, under the keys that are names. -/
def ofEntries? : List (Yaml × Yaml) → Option (List (String × Setting))
  | [] => some []
  | (key, value) :: entries => do
    let first ← ofYaml? value
    let rest ← ofEntries? entries
    if entries.any fun entry => sameKey key entry.1 then none
    else match keyName key with
      | some name => some ((name, first) :: rest)
      | none => some rest

end

/-! ### Reading -/

/-- The text that a value stands for. -/
def asText? : Setting → Option String
  | .text value => some value
  | .flag value => some (if value then "true" else "false")
  | .whole value => some (Numeral.text value)
  | .fraction value => some (Fraction.text value)
  | _ => none

/-- The number below 2^64 that a value stands for. -/
def asCount? : Setting → Option Nat
  | .whole value => if 0 ≤ value then some value.toNat else none
  | .text value =>
    let lower := String.ofList (value.toList.map Char.toLower)
    if ["true", "on", "yes"].contains lower then some 1
    else if ["false", "off", "no"].contains lower then some 0
    else Numeral.nat64? 10 value.toList
  | .flag value => some (if value then 1 else 0)
  | .fraction value => some (Fraction.toNat value)
  | _ => none

/-- The one of the names that a text is in some case. -/
def nameIn? (names : List String) (text : String) : Option String :=
  let lower (text : String) := text.toList.map Char.toLower
  names.find? fun name => lower name == lower text

instance : Readable Setting where
  isAbsent
    | .absent => true
    | _ => false
  text? := asText?
  count? := asCount?
  name? names
    | .text value => nameIn? names value
    | .table [(key, _)] => nameIn? names key
    | _ => none
  items?
    | .list items => some items
    | _ => none
  members? names
    | .table entries => some entries
    | .list items => some (names.zip items)
    | _ => none

end Setting

end ReleaseCatalog
