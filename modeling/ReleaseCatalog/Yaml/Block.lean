/-
Nodes that are told by their indentation. A block collection goes on for as long as its entries
stand in one column, and what belongs to an entry is indented further. A plain or quoted scalar, an
alias or a flow collection is a key if it stands on one line and a colon follows, but only where a
key may begin: at the start of a line, or right after the sign of an entry.
-/

import ReleaseCatalog.Yaml.Flow
import ReleaseCatalog.Yaml.Scalar.Block

namespace ReleaseCatalog.Yaml

open Reading

/-- A key with the colon after it, if one stands here. -/
def key? (fuel : Nat) : Reading (Option Yaml) :=
  attempt do
    let start ← cursor
    let properties ← Properties.here false (do goTo (← cursor).skipBlanks)
    let key ← match (← cursor).peek? with
      | some '*' => named
      | some '"' => quoted '"'
      | some '\'' => quoted '\''
      | some '[' => flowContent fuel
      | some '\x7b' => flowContent fuel
      | some ':' => if (← cursor).blankAfter then pure Yaml.empty else plainKey false
      | _ => plainKey false
    let key ← properties.apply key
    if ← keyColon? start false then return some key else return none

/-- Whether the node of an entry has not begun when the next token is reached. The entry belongs to
a collection in column `parent`. What belongs to the entry is indented further, except that a
sequence may stand right below its key if `besideKey` says so. -/
def isOutside (parent : Int) (besideKey : Bool) (cursor : Cursor) (lineEnded : Bool) : Bool :=
  cursor.atEnd || cursor.atMarker ||
    (lineEnded && ((cursor.column : Int) < parent ||
      ((cursor.column : Int) == parent && !(besideKey && atDash cursor))))

mutual

/-- The node of an entry. A collection may begin on the line of the entry if it is `inline`. Where
no node was written there is an empty one. -/
def node (parent : Int) (besideKey inline : Bool) : Nat → Reading Yaml
  | 0 => failure
  | fuel + 1 => do
    let (lineEnded, next) := (← cursor).toToken (!inline)
    if isOutside parent besideKey next lineEnded then return Yaml.empty
    goTo next
    nodeHere parent besideKey {} (lineEnded || inline) fuel

/-- The node at this token, of which some properties may have been read. A collection may begin
here if the token is `fresh`, the first on its line or right after the sign of an entry. -/
def nodeHere (parent : Int) (besideKey : Bool) (properties : Properties) (fresh : Bool) :
    Nat → Reading Yaml
  | 0 => failure
  | fuel + 1 => do
    if fresh then
      if let some collection ← collection? parent fuel then return ← properties.apply collection
    match ← properties.next? false with
    | none => properties.apply (← content parent fuel)
    | some more =>
      let (lineEnded, next) := (← cursor).toToken true
      if isOutside parent besideKey next lineEnded then return ← more.apply Yaml.empty
      goTo next
      nodeHere parent besideKey more lineEnded fuel

/-- A block collection, if one starts here. -/
def collection? (parent : Int) : Nat → Reading (Option Yaml)
  | 0 => failure
  | fuel + 1 => do
    let start ← cursor
    if atDash start then return some (.sequence (← items parent start.column fuel))
    if start.blankAfter && (start.peek? == some '?') then
      return some (.mapping (← entries start.column fuel))
    match ← key? fuel with
    | none => return none
    | some _ =>
      goTo start
      return some (.mapping (← entries start.column fuel))

/-- A node that is no block collection. -/
def content (parent : Int) : Nat → Reading Yaml
  | 0 => failure
  | fuel + 1 => do
    let here ← cursor
    if atDash here || (here.blankAfter && (here.peek? == some '?')) then failure
    match here.peek? with
    | some '|' =>
      skip 1
      return .scalar .quoted none (← ofScalar (Scalar.block? false parent))
    | some '>' =>
      skip 1
      return .scalar .quoted none (← ofScalar (Scalar.block? true parent))
    | some '*' => named
    | some '"' => quoted '"'
    | some '\'' => quoted '\''
    | some '[' => flowContent fuel
    | some '\x7b' => flowContent fuel
    | _ => plain false parent

/-- The items of a sequence in the given column. Its end is told by a token further to the left,
which is left to whatever the sequence is part of. -/
def items (parent : Int) (column : Nat) : Nat → Reading (List Yaml)
  | 0 => failure
  | fuel + 1 => do
    skip 1
    let item ← node column false true fuel
    let (lineEnded, next) := (← cursor).toToken true
    if next.atEnd || next.atMarker then return [item]
    if !lineEnded || column < next.column then failure
    if next.column == column && atDash next then
      goTo next
      return item :: (← items parent column fuel)
    if next.column == column && (column : Int) != parent then failure
    return [item]

/-- The entries of a mapping in the given column. -/
def entries (column : Nat) : Nat → Reading (List (Yaml × Yaml))
  | 0 => failure
  | fuel + 1 => do
    let start ← cursor
    let entry ← do
      if start.peek? == some '?' && start.blankAfter then
        skip 1
        let key ← node column true true fuel
        let (_, next) := (← cursor).toToken true
        if next.column == column && next.peek? == some ':' && next.blankAfter then
          goTo (next.skip 1)
          pure (key, ← node column true true fuel)
        else pure (key, Yaml.empty)
      else
        match ← key? fuel with
        | none => failure
        | some key => pure (key, ← node column true false fuel)
    let (lineEnded, next) := (← cursor).toToken true
    if next.atEnd || next.atMarker then return [entry]
    if !lineEnded || column < next.column then failure
    if next.column < column then return [entry]
    goTo next
    return entry :: (← entries column fuel)

end

end ReleaseCatalog.Yaml
