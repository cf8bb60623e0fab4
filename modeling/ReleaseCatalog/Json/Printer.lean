/-
The compact text of a JSON value, without blanks. Content hashes are taken of this text, so that
its every character is fixed: which characters are escaped and how, and the order of the members.
A second layout with one member or item on a line is for people to read.

A printer takes the characters that are to follow and puts the text of a value in front of them.
-/

import ReleaseCatalog.Text.Decimal
import ReleaseCatalog.Json.Basic

namespace ReleaseCatalog.Json

/-- The lower-case hexadecimal digit for a number below sixteen. -/
def hexDigit (value : Nat) : Char :=
  if value < 10 then Char.ofNat (48 + value) else Char.ofNat (87 + value)

/-- The escape of a character inside a string: quotation mark, backslash and the control
characters below the blank have one, every other character stands for itself. -/
def escape (char : Char) : List Char :=
  match char with
  | '"' => ['\\', '"']
  | '\\' => ['\\', '\\']
  | '\x08' => ['\\', 'b']
  | '\x0c' => ['\\', 'f']
  | '\n' => ['\\', 'n']
  | '\r' => ['\\', 'r']
  | '\t' => ['\\', 't']
  | char =>
    if char.toNat < 0x20 then
      ['\\', 'u', '0', '0', hexDigit (char.toNat / 16), hexDigit (char.toNat % 16)]
    else [char]

/-- The characters of a string literal without its quotation marks. -/
def escaped : List Char → List Char → List Char
  | [], rest => rest
  | char :: text, rest => escape char ++ escaped text rest

/-- A string literal. -/
def writeString (text : String) (rest : List Char) : List Char :=
  '"' :: escaped text.toList ('"' :: rest)

mutual

/-- The compact text of a value, in front of the given characters. -/
def write : Json → List Char → List Char
  | .null, rest => "null".toList ++ rest
  | .bool true, rest => "true".toList ++ rest
  | .bool false, rest => "false".toList ++ rest
  | .number literal, rest => literal.toList ++ rest
  | .string text, rest => writeString text rest
  | .array items, rest => '[' :: writeItems items (']' :: rest)
  | .object members, rest => '{' :: writeMembers members ('}' :: rest)
  | .unreadable, rest => "\"\\ud800\"".toList ++ rest

/-- The items of an array, with commas between them. -/
def writeItems : List Json → List Char → List Char
  | [], rest => rest
  | [item], rest => item.write rest
  | item :: next :: items, rest => item.write (',' :: writeItems (next :: items) rest)

/-- The members of an object, with commas between them. -/
def writeMembers : List (String × Json) → List Char → List Char
  | [], rest => rest
  | [(key, value)], rest => writeString key (':' :: value.write rest)
  | (key, value) :: next :: members, rest =>
    writeString key (':' :: value.write (',' :: writeMembers (next :: members) rest))

end

/-- The compact text of a value. -/
def render (value : Json) : String :=
  String.ofList (value.write [])

/-- A line break and the indentation of the given depth, two blanks for each level. -/
def lineBreak (depth : Nat) (rest : List Char) : List Char :=
  '\n' :: (List.replicate (2 * depth) ' ' ++ rest)

mutual

/-- The text of a value with one member or item on a line. -/
def writeLines (depth : Nat) : Json → List Char → List Char
  | .array [], rest => '[' :: ']' :: rest
  | .object [], rest => '{' :: '}' :: rest
  | .array items, rest =>
    '[' :: writeItemLines (depth + 1) items (lineBreak depth (']' :: rest))
  | .object members, rest =>
    '{' :: writeMemberLines (depth + 1) members (lineBreak depth ('}' :: rest))
  | value, rest => value.write rest

/-- The items of an array, each on a line of its own. -/
def writeItemLines (depth : Nat) : List Json → List Char → List Char
  | [], rest => rest
  | [item], rest => lineBreak depth (writeLines depth item rest)
  | item :: next :: items, rest =>
    lineBreak depth (writeLines depth item (',' :: writeItemLines depth (next :: items) rest))

/-- The members of an object, each on a line of its own. -/
def writeMemberLines (depth : Nat) : List (String × Json) → List Char → List Char
  | [], rest => rest
  | [(key, value)], rest =>
    lineBreak depth (writeString key (':' :: ' ' :: writeLines depth value rest))
  | (key, value) :: next :: members, rest =>
    lineBreak depth (writeString key (':' :: ' ' ::
      writeLines depth value (',' :: writeMemberLines depth (next :: members) rest)))

end

/-- The text of a value for people to read. -/
def renderLines (value : Json) : String :=
  String.ofList (writeLines 0 value [])

/-- The whole number as a JSON value. -/
def ofNat (number : Nat) : Json :=
  .number (Decimal.text number)

end ReleaseCatalog.Json
