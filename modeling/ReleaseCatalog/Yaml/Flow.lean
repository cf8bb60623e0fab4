/-
Nodes that are written on a line or between brackets: scalars, aliases and flow collections.
Between brackets indentation does not count, and line ends separate tokens as blanks do.

The fuel of the recursive readers is bounded by the length of the text, since every few of their
steps use up a character. So it is in `ReleaseCatalog.Yaml.Block`.
-/

import ReleaseCatalog.Yaml.Reading
import ReleaseCatalog.Yaml.Scalar.Quoted

namespace ReleaseCatalog.Yaml

open Reading

/-- A node that was given a name before. -/
def named : Reading Yaml := do
  let name ← Properties.name
  match (← get).anchors.lookup name with
  | some node => return node
  | none => failure

/-- A scalar in quotes. -/
def quoted (sign : Char) : Reading Yaml := do
  skip 1
  let fuel := (← cursor).rest.length + 1
  let text ← ofScalar fun cursor =>
    if sign == '"' then Scalar.double fuel [] 0 cursor else Scalar.single fuel [] cursor
  return .scalar .quoted none text

/-- A plain scalar. -/
def plain (inFlow : Bool) (indent : Int) : Reading Yaml := do
  match (← cursor).rest with
  | [] => failure
  | char :: rest =>
    if !Scalar.startsPlain inFlow char rest.head? then failure
    return .scalar .plain none (← ofScalar (Scalar.plain? inFlow indent))

/-- The part of a plain scalar that is on this line. -/
def plainKey (inFlow : Bool) : Reading Yaml := do
  match (← cursor).rest with
  | [] => failure
  | char :: rest =>
    if !Scalar.startsPlain inFlow char rest.head? then failure
    return .scalar .plain none (← ofScalar fun cursor => some (Scalar.firstLine inFlow cursor))

/-- The longest key that needs no sign in front of it. -/
def longestKey : Nat := 1024

/-- Passes the colon after a key that began at `start`, if the key is followed by one on the same
line. -/
def keyColon? (start : Cursor) (anyAfter : Bool) : Reading Bool := do
  let colon := (← cursor).skipBlanks
  let length := start.rest.length - colon.rest.length
  if length ≤ longestKey && !(start.rest.take length).contains '\n' &&
      colon.peek? == some ':' && (anyAfter || colon.blankAfter) then
    goTo (colon.skip 1)
    return true
  else
    return false

/-- Whether the entry of a sequence starts at this place. -/
def atDash (cursor : Cursor) : Bool :=
  cursor.peek? == some '-' && cursor.blankAfter

/-- Whether a node between brackets ends before this place. -/
def endsFlowNode (cursor : Cursor) : Bool :=
  cursor.peek?.any fun char => [',', ']', '\x7d'].contains char

mutual

/-- A node between brackets. After properties the node itself may be left out. -/
def flowNode : Nat → Reading Yaml
  | 0 => failure
  | fuel + 1 => do
    let _ ← toFlowToken
    let properties ← Properties.here true (discard toFlowToken)
    let next ← cursor
    if properties.isGiven && (endsFlowNode next || next.peek? == some ':') then
      properties.apply Yaml.empty
    else properties.apply (← flowContent fuel)

/-- A node between brackets, without its properties. -/
def flowContent : Nat → Reading Yaml
  | 0 => failure
  | fuel + 1 => do
    match (← cursor).peek? with
    | some '*' => named
    | some '"' => quoted '"'
    | some '\'' => quoted '\''
    | some '[' =>
      skip 1
      return .sequence (← flowItems fuel)
    | some '\x7b' =>
      skip 1
      return .mapping (← flowEntries fuel)
    | _ => plain true 0

/-- The value after a colon between brackets; it may be left out. -/
def flowValue : Nat → Reading Yaml
  | 0 => failure
  | fuel + 1 => do
    let next ← toFlowToken
    if endsFlowNode next then return Yaml.empty
    flowNode fuel

/-- A key between brackets, and its value if a colon follows. -/
def flowPair : Nat → Reading (Yaml × Option Yaml)
  | 0 => failure
  | fuel + 1 => do
    let start ← toFlowToken
    if start.peek? == some '?' && start.blankAfter then
      skip 1
      let next ← toFlowToken
      let key ← if next.peek? == some ':' then pure Yaml.empty else flowValue fuel
      let next ← toFlowToken
      if next.peek? == some ':' then
        skip 1
        return (key, some (← flowValue fuel))
      else return (key, some Yaml.empty)
    else
      let key ← flowNode fuel
      if ← keyColon? start true then return (key, some (← flowValue fuel))
      else return (key, none)

/-- The items of a sequence after its opening bracket. An item with a colon is a mapping of one
entry. -/
def flowItems : Nat → Reading (List Yaml)
  | 0 => failure
  | fuel + 1 => do
    let next ← toFlowToken
    if next.peek? == some ']' then
      skip 1
      return []
    let item ← match ← flowPair fuel with
      | (key, some value) => pure (Yaml.mapping [(key, value)])
      | (item, none) => pure item
    let next ← toFlowToken
    match next.peek? with
    | some ',' =>
      skip 1
      return item :: (← flowItems fuel)
    | some ']' =>
      skip 1
      return [item]
    | _ => failure

/-- The entries of a mapping after its opening brace. -/
def flowEntries : Nat → Reading (List (Yaml × Yaml))
  | 0 => failure
  | fuel + 1 => do
    let next ← toFlowToken
    if next.peek? == some '\x7d' then
      skip 1
      return []
    let (key, value) ← flowPair fuel
    let entry := (key, value.getD Yaml.empty)
    let next ← toFlowToken
    match next.peek? with
    | some ',' =>
      skip 1
      return entry :: (← flowEntries fuel)
    | some '\x7d' =>
      skip 1
      return [entry]
    | _ => failure

end

end ReleaseCatalog.Yaml
