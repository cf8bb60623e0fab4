/-
Scalars in blocks of lines, literal or folded. The indentation of the first line that is not empty
is taken off all lines, and a sign in the header says what becomes of the line ends at the end.
-/

import ReleaseCatalog.Yaml.Cursor

namespace ReleaseCatalog.Yaml.Scalar

/-- What becomes of the line ends at the end of a block. -/
inductive Chomping where
  | clip
  | strip
  | keep
  deriving DecidableEq, Repr

/-- The header of a block after its sign: chomping and indentation, in either order. -/
def header : List Char → Chomping → Option Nat → Option (Chomping × Option Nat × List Char)
  | '-' :: rest, .clip, indent => header rest .strip indent
  | '+' :: rest, .clip, indent => header rest .keep indent
  | char :: rest, chomping, none =>
    if '1' ≤ char && char ≤ '9' then header rest chomping (some (char.toNat - 48))
    else some (chomping, none, char :: rest)
  | rest, chomping, indent => some (chomping, indent, rest)

/-- The lines of a block: the text of each line that is indented by at least `indent` columns, or
nothing for an empty line. Blanks after the last line end are no line. The place after the lines is
the start of a line, unless the text breaks off in the last one. -/
def blockLines (indent : Nat) : Nat → Cursor → List (List Char) × Cursor
  | 0, cursor => ([], cursor)
  | fuel + 1, cursor =>
    let spaces := (cursor.rest.takeWhile (· == ' ')).length
    let inner := cursor.rest.drop (min spaces indent)
    if inner.isEmpty then ([], cursor)
    else
      let line := inner.takeWhile (· != '\n')
      let after : Cursor := (cursor.skipLine).nextLine
      if indent ≤ spaces && !cursor.atMarker then
        let (lines, last) := blockLines indent fuel after
        (line :: lines, last)
      else if (cursor.rest.drop spaces).head?.all (· == '\n') then
        let (lines, last) := blockLines indent fuel after
        ([] :: lines, last)
      else ([], cursor)

/-- The widest indentation of a block up to its first line that is not empty, which is at least
`least` columns. -/
def blockIndent (least : Nat) : Nat → Cursor → Nat
  | 0, _ => least
  | fuel + 1, cursor =>
    let spaces := (cursor.rest.takeWhile (· == ' ')).length
    match cursor.rest.drop spaces with
    | '\n' :: rest => blockIndent (max least spaces) fuel ⟨rest, 0⟩
    | _ => max least spaces

/-- Folds the lines of a block: a single line end between two lines that are not indented further
becomes a blank. -/
def foldLines : List (List Char) → List Char
  | [] => []
  | [line] => line ++ ['\n']
  | line :: next :: lines =>
    let indented (line : List Char) : Bool := line.head?.any isBlank
    if line.isEmpty then '\n' :: foldLines (next :: lines)
    else if indented line || indented next then line ++ '\n' :: foldLines (next :: lines)
    else if next.isEmpty then
      if lines.all List.isEmpty then line ++ '\n' :: foldLines (next :: lines)
      else if (lines.dropWhile List.isEmpty).head?.any indented then
        line ++ '\n' :: foldLines (next :: lines)
      else line ++ foldLines (next :: lines)
    else line ++ ' ' :: foldLines (next :: lines)

/-- A block scalar after its sign, inside a node that is indented by `parent` columns. -/
def block? (folded : Bool) (parent : Int) (cursor : Cursor) : Option (List Char × Cursor) := do
  let (chomping, given, afterHeader) ← header cursor.rest .clip none
  let afterBlanks := ({ cursor with rest := afterHeader } : Cursor).skipBlanks
  let headerEnd := if afterBlanks.peek? == some '#' then afterBlanks.skipLine else afterBlanks
  if !headerEnd.atLineEnd then none
  let start := headerEnd.nextLine
  let least := max 1 (parent + 1).toNat
  let fuel := start.rest.length + 1
  let indent := match given with
    | some count => parent.toNat + count
    | none => blockIndent least fuel start
  let (lines, after) := blockLines indent fuel start
  let blanks := (lines.reverse.takeWhile List.isEmpty).length
  let body := lines.take (lines.length - blanks)
  let text := if folded then foldLines body else body.flatMap fun line => line ++ ['\n']
  -- A line in which the text breaks off has no line end that could be kept.
  let chomped := match (if after.column == 0 then chomping else .strip) with
    | .strip => text.dropLast
    | .clip => text
    | .keep => text ++ List.replicate blanks '\n'
  some (chomped, after)

end ReleaseCatalog.Yaml.Scalar
