/-
The steps in which a YAML text is read: they share the place that has been reached and the nodes
that were given names. In front of a node may stand its properties, a tag and a name.
-/

import ReleaseCatalog.Yaml.Basic
import ReleaseCatalog.Yaml.Scalar.Plain

namespace ReleaseCatalog.Yaml

/-- How far a text was read, and the nodes that were given names. -/
structure Progress where
  cursor : Cursor
  anchors : List (String × Yaml)

/-- A step of reading, which fails on a text that is not YAML. -/
abbrev Reading := StateT Progress Option

namespace Reading

/-- The place that reading has reached. -/
def cursor : Reading Cursor :=
  return (← get).cursor

/-- Goes on at another place. -/
def goTo (cursor : Cursor) : Reading Unit :=
  modify fun progress => { progress with cursor }

/-- Passes characters of this line. -/
def skip (count : Nat) : Reading Unit := do
  goTo ((← cursor).skip count)

/-- Goes to the next token between two documents. -/
def toToken : Reading Unit := do
  goTo ((← cursor).toToken false).2

/-- Goes to the next token of a flow collection. -/
def toFlowToken : Reading Cursor := do
  let next := (← cursor).toFlowToken
  if next.atMarker || next.atEnd then failure
  goTo next
  return next

/-- Runs a reader of scalars. -/
def ofScalar (read : Cursor → Option (List Char × Cursor)) : Reading String := do
  let (text, next) ← (read (← cursor) : Option _)
  goTo next
  return String.ofList text

/-- Runs a step from here, and takes its result only if it is wanted; otherwise nothing has been
read. -/
def attempt {α : Type} (step : Reading (Option α)) : Reading (Option α) := fun progress =>
  match step progress with
  | some (some value, after) => some (some value, after)
  | _ => some (none, progress)

end Reading

open Reading

/-- The tag and the name that stand in front of a node. -/
structure Properties where
  tag : Option String := none
  anchor : Option String := none

namespace Properties

/-- The tag that a written one stands for. -/
def resolveTag (written : List Char) : String :=
  match written with
  | '!' :: '!' :: rest => "tag:yaml.org,2002:" ++ String.ofList rest
  | '!' :: '<' :: rest => String.ofList rest.dropLast
  | _ => String.ofList written

/-- Whether a character may be part of the name of a node. -/
def isNameChar (char : Char) : Bool :=
  char.isAlphanum || char == '_' || char == '-'

/-- The name after the sign in front of it. -/
def name : Reading String := do
  skip 1
  let name := (← cursor).rest.takeWhile isNameChar
  if name.isEmpty then failure
  skip name.length
  return String.ofList name

/-- One tag or name, if there is one here that `before` does not have yet. -/
def next? (before : Properties) (inFlow : Bool) : Reading (Option Properties) := do
  match (← cursor).rest with
  | '!' :: _ =>
    if before.tag.isSome then failure
    let written := (← cursor).rest.takeWhile fun char =>
      !(char == ' ' || char == '\t' || char == '\n' || (inFlow && Scalar.isFlowIndicator char))
    skip written.length
    return some { before with tag := some (resolveTag written) }
  | '&' :: _ =>
    if before.anchor.isSome then failure
    return some { before with anchor := some (← name) }
  | _ => return none

/-- Gives the name to a node and the tag to a scalar. -/
def apply (properties : Properties) (node : Yaml) : Reading Yaml := do
  let node := match properties.tag, node with
    | some tag, .scalar style _ text => Yaml.scalar style (some tag) text
    | _, _ => node
  match properties.anchor with
  | none => return node
  | some anchor =>
    modify fun progress => { progress with anchors := (anchor, node) :: progress.anchors }
    return node

/-- The properties that stand here; `pass` goes on to what stands after each of them. -/
def here (inFlow : Bool) (pass : Reading Unit) : Reading Properties := do
  match ← next? {} inFlow with
  | none => return {}
  | some first =>
    pass
    match ← next? first inFlow with
    | none => return first
    | some both =>
      pass
      return both

/-- Whether there are any properties. -/
def isGiven (properties : Properties) : Bool :=
  properties.tag.isSome || properties.anchor.isSome

end Properties

end ReleaseCatalog.Yaml
