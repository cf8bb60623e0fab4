/-
Reading JSON texts. The grammar is the one of the standard: no comments, no trailing commas, no
control characters inside strings, no leading zeros. A reader answers what it read together with
the characters that are left.

Nesting has no limit here. The fuel of the recursive readers is the length of the text, which no
nesting can exceed.
-/

import ReleaseCatalog.Text.Decimal
import ReleaseCatalog.Text.Hexadecimal
import ReleaseCatalog.Json.Basic

namespace ReleaseCatalog.Json

/-- The blanks between the tokens of a JSON text. -/
def isSpace (char : Char) : Bool :=
  char == ' ' || char == '\n' || char == '\t' || char == '\r'

/-- The characters from the next token on. -/
def skipSpace (input : List Char) : List Char :=
  input.dropWhile isSpace

/-- The character that a backslash and this letter stand for. -/
def shortEscape? (letter : Char) : Option Char :=
  match letter with
  | '"' => some '"'
  | '\\' => some '\\'
  | '/' => some '/'
  | 'b' => some '\x08'
  | 'f' => some '\x0c'
  | 'n' => some '\n'
  | 'r' => some '\r'
  | 't' => some '\t'
  | _ => none

/-- What one step inside a string literal yields: a character, or half of a surrogate pair. -/
inductive Unit where
  | char (value : Char)
  | half (code : Nat)

/-- The unit with the given number. -/
def Unit.ofCode (code : Nat) : Unit :=
  if 0xD800 ≤ code && code < 0xE000 then .half code else .char (Char.ofNat code)

/-- The units of a string literal up to its closing quotation mark. -/
def units? : List Char → Option (List Unit × List Char)
  | [] => none
  | '"' :: rest => some ([], rest)
  | '\\' :: 'u' :: first :: second :: third :: fourth :: rest =>
    match Hexadecimal.value? 16 [first, second, third, fourth] with
    | none => none
    | some code => (units? rest).map fun (units, rest) => (Unit.ofCode code :: units, rest)
  | '\\' :: letter :: rest =>
    match shortEscape? letter with
    | none => none
    | some char => (units? rest).map fun (units, rest) => (.char char :: units, rest)
  | char :: rest =>
    if char.toNat < 0x20 || char == '\\' then none
    else (units? rest).map fun (units, rest) => (.char char :: units, rest)

/-- The characters that units denote: a leading half followed by a trailing one is a character
beyond the basic plane, and a half that has no partner denotes nothing. -/
def join? : List Unit → Option (List Char)
  | [] => some []
  | .char char :: rest => (join? rest).map (char :: ·)
  | .half lead :: .half trail :: rest =>
    if lead < 0xDC00 && 0xDC00 ≤ trail then
      (join? rest).map (Char.ofNat (0x10000 + (lead - 0xD800) * 0x400 + (trail - 0xDC00)) :: ·)
    else none
  | .half _ :: _ => none

/-- A string literal after its opening quotation mark: its text, if it denotes one. -/
def stringBody? (input : List Char) : Option (Option String × List Char) :=
  (units? input).map fun (units, rest) => ((join? units).map String.ofList, rest)

/-- One digit or more. -/
def digits? (input : List Char) : Option (List Char × List Char) :=
  match input.span Decimal.isDigit with
  | ([], _) => none
  | (numeral, rest) => some (numeral, rest)

/-- The whole part of a number: zero alone, or digits that do not start with it. -/
def wholePart? (input : List Char) : Option (List Char × List Char) :=
  match input with
  | '0' :: rest =>
    match rest with
    | [] => some (['0'], [])
    | next :: _ => if Decimal.isDigit next then none else some (['0'], rest)
  | _ => digits? input

/-- The optional fraction of a number, with its point. -/
def fractionPart? (input : List Char) : Option (List Char × List Char) :=
  match input with
  | '.' :: rest => (digits? rest).map fun (numeral, rest) => ('.' :: numeral, rest)
  | _ => some ([], input)

/-- The optional exponent of a number, with its letter and sign. -/
def exponentPart? (input : List Char) : Option (List Char × List Char) :=
  match input with
  | letter :: rest =>
    if letter == 'e' || letter == 'E' then
      match rest with
      | sign :: signed =>
        if sign == '+' || sign == '-' then
          (digits? signed).map fun (numeral, rest) => (letter :: sign :: numeral, rest)
        else (digits? rest).map fun (numeral, rest) => (letter :: numeral, rest)
      | [] => none
    else some ([], input)
  | [] => some ([], [])

/-- The parts of a number after its sign. -/
def unsigned? (input : List Char) : Option (List Char × List Char) := do
  let (whole, rest) ← wholePart? input
  let (fraction, rest) ← fractionPart? rest
  let (exponent, rest) ← exponentPart? rest
  some (whole ++ fraction ++ exponent, rest)

/-- A number literal. -/
def number? (input : List Char) : Option (String × List Char) :=
  match input with
  | '-' :: rest => (unsigned? rest).map fun (literal, rest) => (String.ofList ('-' :: literal), rest)
  | _ => (unsigned? input).map fun (literal, rest) => (String.ofList literal, rest)

/-- The text after a given word. -/
def after? (word : List Char) (input : List Char) : Option (List Char) :=
  match word, input with
  | [], rest => some rest
  | expected :: word, char :: rest => if expected == char then after? word rest else none
  | _ :: _, [] => none

/-- The object with these members, unless one of the keys denotes no text. -/
def objectOf (members : List (Option String × Json)) : Json :=
  match members.mapM fun (key, value) => key.map fun key => (key, value) with
  | some members => .object members
  | none => .unreadable

mutual

/-- One value, after any blanks. -/
def readValue? : Nat → List Char → Option (Json × List Char)
  | 0, _ => none
  | fuel + 1, input =>
    match skipSpace input with
    | '{' :: rest =>
      match skipSpace rest with
      | '}' :: rest => some (.object [], rest)
      | _ => (readMembers? fuel rest).map fun (members, rest) => (objectOf members, rest)
    | '[' :: rest =>
      match skipSpace rest with
      | ']' :: rest => some (.array [], rest)
      | _ => (readItems? fuel rest).map fun (items, rest) => (.array items, rest)
    | '"' :: rest => (stringBody? rest).map fun (text, rest) =>
        ((text.map Json.string).getD .unreadable, rest)
    | 'n' :: rest => (after? "ull".toList rest).map fun rest => (.null, rest)
    | 't' :: rest => (after? "rue".toList rest).map fun rest => (.bool true, rest)
    | 'f' :: rest => (after? "alse".toList rest).map fun rest => (.bool false, rest)
    | rest => (number? rest).map fun (literal, rest) => (.number literal, rest)

/-- The items of an array up to its closing bracket; there is at least one. -/
def readItems? : Nat → List Char → Option (List Json × List Char)
  | 0, _ => none
  | fuel + 1, input =>
    match readValue? fuel input with
    | none => none
    | some (item, rest) =>
      match skipSpace rest with
      | ']' :: rest => some ([item], rest)
      | ',' :: rest => (readItems? fuel rest).map fun (items, rest) => (item :: items, rest)
      | _ => none

/-- The members of an object up to its closing brace; there is at least one. -/
def readMembers? : Nat → List Char → Option (List (Option String × Json) × List Char)
  | 0, _ => none
  | fuel + 1, input =>
    match skipSpace input with
    | '"' :: rest =>
      match stringBody? rest with
      | none => none
      | some (key, rest) =>
        match skipSpace rest with
        | ':' :: rest =>
          match readValue? fuel rest with
          | none => none
          | some (value, rest) =>
            match skipSpace rest with
            | '}' :: rest => some ([(key, value)], rest)
            | ',' :: rest =>
              (readMembers? fuel rest).map fun (members, rest) => ((key, value) :: members, rest)
            | _ => none
        | _ => none
    | _ => none

end

/-- Reads a whole text as one value. -/
def parse? (text : String) : Option Json :=
  let input := text.toList
  match readValue? (2 * input.length + 1) input with
  | some (value, rest) => if skipSpace rest = [] then some value else none
  | none => none

/-- The document that a text encodes. -/
def decode? (read? : Json → Option α) (text : String) : Option α :=
  (parse? text).bind read?

end ReleaseCatalog.Json
