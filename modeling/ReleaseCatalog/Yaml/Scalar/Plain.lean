/-
Plain scalars, which are written without quotes and therefore end at everything that could be a
sign of another token.
-/

import ReleaseCatalog.Yaml.Scalar.Folding

namespace ReleaseCatalog.Yaml.Scalar

/-- The characters that mean something between the brackets of a flow collection. -/
def isFlowIndicator (char : Char) : Bool :=
  [',', '[', ']', '\x7b', '\x7d'].contains char

/-- The part of a line that belongs to a plain scalar. It ends before a colon that a blank
follows and before a comment, and inside a flow collection before its indicators. -/
def plainLine (inFlow : Bool) : Option Char → List Char → List Char
  | _, [] => []
  | before, char :: rest =>
    let after := rest.head?
    if char == '\n' then []
    else if char == '#' && before.all isBlank then []
    else if char == ':' && (endsToken after || (inFlow && after.any isFlowIndicator)) then []
    else if inFlow && isFlowIndicator char then []
    else char :: plainLine inFlow (some char) rest

/-- Whether a plain scalar may start with this character, given the one after it. -/
def startsPlain (inFlow : Bool) (char : Char) (after : Option Char) : Bool :=
  let unsafeAfter := endsToken after || (inFlow && after.any isFlowIndicator)
  if ['-', '?', ':'].contains char then !unsafeAfter
  else !(isFlowIndicator char ||
    ['#', '&', '*', '!', '|', '>', '\'', '"', '%', '@'].contains char ||
    char.toNat == 0x60 || isBlank char || char == '\n')

/-- The part of a plain scalar on this line, and the place after it. -/
def firstLine (inFlow : Bool) (cursor : Cursor) : List Char × Cursor :=
  let line := trimmed (plainLine inFlow none cursor.rest)
  (line, cursor.skip line.length)

/-- Continues a plain scalar over the lines that are indented by more than `indent` columns. A
line of it must not look like a key. -/
def continuePlain (inFlow : Bool) (indent : Int) : Nat → List Char → Cursor →
    Option (List Char × Cursor)
  | 0, text, cursor => some (text, cursor)
  | fuel + 1, text, cursor =>
    let (breaks, ahead) := overBreaks (cursor.rest.length + 1) cursor 0
    if breaks == 0 || ahead.atEnd || ahead.atMarker || (ahead.column : Int) ≤ indent then
      some (text, cursor)
    else
      let (line, after) := firstLine inFlow ahead
      if line.isEmpty then some (text, cursor)
      else if !inFlow && after.skipBlanks.peek? == some ':' then none
      else continuePlain inFlow indent fuel (fold text breaks line) after

/-- A plain scalar that runs over lines indented by more than `indent` columns. -/
def plain? (inFlow : Bool) (indent : Int) (cursor : Cursor) : Option (List Char × Cursor) :=
  let (line, after) := firstLine inFlow cursor
  if line.isEmpty then none else continuePlain inFlow indent (cursor.rest.length + 1) line after

end ReleaseCatalog.Yaml.Scalar
