/-
A place in a text, with the column that it is in. Indentation carries meaning in YAML, so that a
reader has to know its column as well as the characters that are left.
-/

namespace ReleaseCatalog.Yaml

/-- The characters that separate tokens on one line. -/
def isBlank (char : Char) : Bool :=
  char == ' ' || char == '\t'

/-- Whether a token ends before this character: a blank, the end of the line or of the text. -/
def endsToken (next : Option Char) : Bool :=
  next.all fun char => isBlank char || char == '\n'

/-- The characters that are left, and the column of the first of them. -/
structure Cursor where
  rest : List Char
  column : Nat
  deriving Inhabited

namespace Cursor

/-- The start of a text. -/
def ofText (text : List Char) : Cursor :=
  ⟨text, 0⟩

/-- The next character. -/
def peek? (cursor : Cursor) : Option Char :=
  cursor.rest.head?

/-- The character after the next one. -/
def second? (cursor : Cursor) : Option Char :=
  (cursor.rest.drop 1).head?

/-- Past the given number of characters of one line. -/
def skip (cursor : Cursor) (count : Nat) : Cursor :=
  ⟨cursor.rest.drop count, cursor.column + count⟩

/-- Whether the text ends here. -/
def atEnd (cursor : Cursor) : Bool :=
  cursor.rest.isEmpty

/-- Whether the line ends here. -/
def atLineEnd (cursor : Cursor) : Bool :=
  cursor.rest.head?.all (· == '\n')

/-- Whether nothing, a blank or a line end follows the next character. -/
def blankAfter (cursor : Cursor) : Bool :=
  endsToken cursor.second?

/-- Past the blanks of this line. -/
def skipBlanks (cursor : Cursor) : Cursor :=
  cursor.skip (cursor.rest.takeWhile isBlank).length

/-- Past the rest of this line, without its end. -/
def skipLine (cursor : Cursor) : Cursor :=
  cursor.skip (cursor.rest.takeWhile (· != '\n')).length

/-- At the start of the next line. -/
def nextLine (cursor : Cursor) : Cursor :=
  match cursor.rest with
  | '\n' :: rest => ⟨rest, 0⟩
  | _ => cursor

/-- Whether a line starts here that ends the document, or starts another one. -/
def atMarker (cursor : Cursor) : Bool :=
  cursor.column == 0 &&
  match cursor.rest with
  | '-' :: '-' :: '-' :: rest | '.' :: '.' :: '.' :: rest => endsToken rest.head?
  | _ => false

/-- At the next thing that is neither blank nor a comment, on this line or a later one; answers
also whether a line was ended on the way. A comment must not touch what stands before it. Tabs may
separate tokens but not indent them, so that outside of a flow collection none is passed where a
line has just begun. -/
def seek (inFlow : Bool) : Nat → Cursor → Bool → Bool → Bool → Bool × Cursor
  | 0, cursor, _, _, lineEnded => (lineEnded, cursor)
  | fuel + 1, cursor, tabs, spaced, lineEnded =>
    match cursor.rest with
    | ' ' :: _ => seek inFlow fuel (cursor.skip 1) tabs true lineEnded
    | '\t' :: _ =>
      if tabs then seek inFlow fuel (cursor.skip 1) tabs true lineEnded else (lineEnded, cursor)
    | '\n' :: rest => seek inFlow fuel ⟨rest, 0⟩ inFlow true true
    | '#' :: _ =>
      if spaced then seek inFlow fuel cursor.skipLine tabs true lineEnded else (lineEnded, cursor)
    | _ => (lineEnded, cursor)

/-- At the next token of a block, on this line or a later one. Where a line begins, one has
ended. -/
def toToken (cursor : Cursor) (tabs : Bool) : Bool × Cursor :=
  let fresh := cursor.column == 0
  seek false (cursor.rest.length + 1) cursor (tabs && !fresh) fresh fresh

/-- At the next token of a flow collection, on this line or a later one. -/
def toFlowToken (cursor : Cursor) : Cursor :=
  (seek true (cursor.rest.length + 1) cursor true false false).2

end Cursor

end ReleaseCatalog.Yaml
