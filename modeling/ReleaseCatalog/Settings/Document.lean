/-
Settings in one YAML document, read as it stands: a count must be written as a plain number, a name
exactly. Where nothing is written there is an empty list, or a record without fields.
-/

import ReleaseCatalog.Settings.Basic
import ReleaseCatalog.Text.Numeral
import ReleaseCatalog.Yaml.Document

namespace ReleaseCatalog.Yaml

/-- The number below 2^64 that a plain text denotes: decimal without leading zeros, or in base
sixteen, eight or two. -/
def plainCount? (text : List Char) : Option Nat :=
  let unsigned := match text with
    | '+' :: rest => rest
    | _ => text
  let number := match unsigned with
    | '0' :: 'x' :: rest => Numeral.natural? 16 rest
    | '0' :: 'o' :: rest => Numeral.natural? 8 rest
    | '0' :: 'b' :: rest => Numeral.natural? 2 rest
    | '0' :: _ :: _ => none
    | _ => Numeral.natural? 10 unsigned
  number.filter (· < Numeral.limit64)

/-- The name that a node gives: its text, or its own tag if it has no text. -/
def givenName? : Yaml → Option String
  | .scalar style (some tag) text =>
    match tag.toList with
    | '!' :: first :: rest =>
      if Yaml.isNull (.scalar style none text) then some (String.ofList (first :: rest)) else none
    | _ => some text
  | .scalar _ none text => some text
  | _ => none

/-- The entries whose keys are among the names. A known key must not be repeated, and every key
must be a scalar. -/
def knownEntries? (names : List String) : List (Yaml × Yaml) → Option (List (String × Yaml))
  | [] => some []
  | (key, value) :: entries => do
    let key ← key.text?
    let rest ← knownEntries? names entries
    if !names.contains key then some rest
    else if (rest.lookup key).isSome then none
    else some ((key, value) :: rest)

instance : Readable Yaml where
  isAbsent := Yaml.isNull
  text? := Yaml.text?
  count?
    | .scalar .plain _ text => plainCount? text.toList
    | _ => none
  name? names node := do
    let name ← givenName? node
    if names.contains name then some name else none
  items?
    | .sequence items => some items
    | node => if node.isEmpty then some [] else none
  members? names
    | .mapping entries => knownEntries? names entries
    | .sequence items => if names.length < items.length then none else some (names.zip items)
    | node => if node.isEmpty then some [] else none

/-- The only document of a text; an empty text has an empty one. -/
def document? (text : String) : Option Yaml := do
  match ← parse? text with
  | [] => some Yaml.empty
  | [document] => some document
  | _ => none

end ReleaseCatalog.Yaml

namespace ReleaseCatalog

/-- Reads the settings in a YAML text. -/
def Settings.ofYaml? (text : String) : Option Settings := do
  Settings.read? (← Yaml.document? text)

/-- Reads the settings of a workflow in a YAML text. -/
def WorkflowSettings.ofYaml? (text : String) : Option WorkflowSettings := do
  WorkflowSettings.read? (← Yaml.document? text)

/-- The table of the rules that a YAML text lists. -/
def TransitionTable.ofYaml (text : String) : Result TransitionTable :=
  match Yaml.document? text >>= Readable.list? Readable.transition? with
  | some rules => TransitionTable.ofRules rules
  | none => .error (.invalidConfig "transition table: the rules cannot be read")

end ReleaseCatalog
