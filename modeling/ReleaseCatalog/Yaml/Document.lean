/-
The documents of a YAML text, with the marks that stand before and after them.
-/

import ReleaseCatalog.Yaml.Block

namespace ReleaseCatalog.Yaml

open Reading

/-- Whether a line starts here that gives a directive. -/
def atDirective (cursor : Cursor) : Bool :=
  cursor.column == 0 && cursor.peek? == some '%'

/-- Passes the directives in front of a document, and answers whether there are any. -/
def directives : Nat → Reading Bool
  | 0 => failure
  | fuel + 1 => do
    toToken
    if atDirective (← cursor) then
      goTo (← cursor).skipLine
      let _ ← directives fuel
      return true
    else return false

/-- Whether the line that starts here consists of this mark. -/
def atMark (mark : List Char) (cursor : Cursor) : Bool :=
  cursor.atMarker && mark.isPrefixOf cursor.rest

/-- Passes the marks that end a document, and answers whether there are any. -/
def endMarks : Nat → Reading Bool
  | 0 => failure
  | fuel + 1 => do
    toToken
    if atMark ['.', '.', '.'] (← cursor) then
      skip 3
      let _ ← endMarks fuel
      return true
    else return false

/-- The documents from here on. All but the first need a mark in front of them, unless the one
before was ended by a mark; so do those that directives stand before. The names of nodes do not
outlive their document. -/
def documents : Nat → Bool → Reading (List Yaml)
  | 0, _ => failure
  | fuel + 1, free => do
    let ended ← endMarks fuel
    let directed ← if free || ended then directives fuel else pure false
    toToken
    let here ← cursor
    modify fun progress => { progress with anchors := [] }
    if atMark ['-', '-', '-'] here then
      skip 3
      let document ← node (-1) false false fuel
      return document :: (← documents fuel false)
    else if here.atEnd && !directed then return []
    else if (free || ended) && !directed then
      let document ← node (-1) false true fuel
      return document :: (← documents fuel false)
    else failure

/-- The characters that end a line are written in several ways. -/
def unifyLines : List Char → List Char
  | [] => []
  | '\r' :: '\n' :: rest => '\n' :: unifyLines rest
  | char :: rest => (if char == '\r' || char == '\u0085' then '\n' else char) :: unifyLines rest

/-- Whether a character may stand in a YAML text. -/
def isPrintable (char : Char) : Bool :=
  let code := char.toNat
  char == '\t' || char == '\n' || (0x20 ≤ code && code ≤ 0x7E) || (0xA0 ≤ code && code < 0xFEFF) ||
    (0xFEFF < code && code ≤ 0xFFFD) || 0x10000 ≤ code

/-- The documents of a YAML text. -/
def parse? (text : String) : Option (List Yaml) :=
  let chars := unifyLines text.toList
  let chars := if chars.head? == some '\ufeff' then chars.tail else chars
  if !chars.all isPrintable then none
  else
    let fuel := 8 * (chars.length + 4)
    ((documents fuel true).run ⟨Cursor.ofText chars, []⟩).map (·.1)

end ReleaseCatalog.Yaml
