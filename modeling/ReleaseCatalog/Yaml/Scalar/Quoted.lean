/-
Scalars in quotes. Single quotes know one escape, the quote written twice; double quotes know the
escapes with a backslash, also for the end of a line.
-/

import ReleaseCatalog.Text.Hexadecimal
import ReleaseCatalog.Yaml.Scalar.Folding

namespace ReleaseCatalog.Yaml.Scalar

/-- A scalar in single quotes after the opening one; a quote inside is written twice. -/
def single : Nat → List Char → Cursor → Option (List Char × Cursor)
  | 0, _, _ => none
  | fuel + 1, text, cursor =>
    match cursor.rest with
    | [] => none
    | '\'' :: '\'' :: _ => single fuel (text ++ ['\'']) (cursor.skip 2)
    | '\'' :: _ => some (text, cursor.skip 1)
    | '\n' :: _ =>
      let (breaks, ahead) := overBreaks (cursor.rest.length + 1) cursor 0
      if ahead.atMarker then none else single fuel (fold (trimmed text) breaks []) ahead
    | char :: _ => single fuel (text ++ [char]) (cursor.skip 1)

/-- The character with the number that the given digits denote. -/
def hexChar? (numeral : List Char) (count : Nat) : Option Char := do
  if numeral.length < count then none
  let code ← Hexadecimal.value? 16 numeral
  if code < 0x110000 && !(0xD800 ≤ code && code < 0xE000) then some (Char.ofNat code) else none

/-- The character for a letter after a backslash in double quotes. -/
def escape? (letter : Char) : Option Char :=
  match letter with
  | '0' => some '\x00'
  | 'a' => some '\x07'
  | 'b' => some '\x08'
  | 't' | '\t' => some '\t'
  | 'n' => some '\n'
  | 'v' => some '\x0b'
  | 'f' => some '\x0c'
  | 'r' => some '\r'
  | 'e' => some '\x1b'
  | ' ' => some ' '
  | '"' => some '"'
  | '/' => some '/'
  | '\\' => some '\\'
  | 'N' => some '\u0085'
  | '_' => some '\u00a0'
  | 'L' => some '\u2028'
  | 'P' => some '\u2029'
  | _ => none

/-- The number of hexadecimal digits that a letter after a backslash is followed by. -/
def hexCount? (letter : Char) : Option Nat :=
  match letter with
  | 'x' => some 2
  | 'u' => some 4
  | 'U' => some 8
  | _ => none

/-- A scalar in double quotes after the opening one. The blanks before a line end are dropped,
except those that were escaped, of which there are `kept` characters. -/
def double : Nat → List Char → Nat → Cursor → Option (List Char × Cursor)
  | 0, _, _, _ => none
  | fuel + 1, text, kept, cursor =>
    match cursor.rest with
    | [] => none
    | '"' :: _ => some (text, cursor.skip 1)
    | '\n' :: _ =>
      let (breaks, ahead) := overBreaks (cursor.rest.length + 1) cursor 0
      let shown := text.take kept ++ trimmed (text.drop kept)
      if ahead.atMarker then none else double fuel (fold shown breaks []) kept ahead
    | '\\' :: '\n' :: rest =>
      let (_, ahead) := overBreaks (rest.length + 1) ⟨rest, 0⟩ 0
      double fuel text text.length ahead
    | '\\' :: letter :: rest =>
      match hexCount? letter with
      | some count =>
        match hexChar? (rest.take count) count with
        | none => none
        | some char => double fuel (text ++ [char]) (text.length + 1) (cursor.skip (2 + count))
      | none =>
        match escape? letter with
        | none => none
        | some char => double fuel (text ++ [char]) (text.length + 1) (cursor.skip 2)
    | char :: _ => double fuel (text ++ [char]) kept (cursor.skip 1)

end ReleaseCatalog.Yaml.Scalar
