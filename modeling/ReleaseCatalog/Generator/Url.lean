/-
The addresses of generators. An address is put into its normal form before a request is sent to
it: scheme and host in lower case, the usual port of the scheme left out, and a path that starts
with a slash and has no dot segments. Texts that are no absolute address have no normal form.
-/

import ReleaseCatalog.Text.Decimal

namespace ReleaseCatalog

/-- An absolute address in its normal form. -/
structure Url where
  scheme : List Char
  /-- Host and port; an address of a kind that has no host has none. -/
  authority : Option (List Char)
  /-- Path, query and fragment. -/
  tail : List Char
  deriving DecidableEq, Repr

namespace Url

/-- The characters that may follow the first letter of a scheme. -/
def isSchemeChar (char : Char) : Bool :=
  char.isAlphanum || char == '+' || char == '-' || char == '.'

/-- The schemes that always have a host, with their usual ports. -/
def usualPort? (scheme : String) : Option Nat :=
  match scheme with
  | "http" | "ws" => some 80
  | "https" | "wss" => some 443
  | "ftp" => some 21
  | _ => none

/-- The address without control characters and blanks at its ends, and without tabs and line
breaks anywhere. -/
def cleaned (text : String) : List Char :=
  let isEdge (char : Char) : Bool := char.toNat ≤ 0x20
  let inner := ((text.toList.dropWhile isEdge).reverse.dropWhile isEdge).reverse
  inner.filter fun char => char != '\t' && char != '\n' && char != '\r'

/-- The characters that cannot stand in a host. -/
def isForbiddenInHost (char : Char) : Bool :=
  char.toNat ≤ 0x20 || char.toNat == 0x7F ||
  ['#', '/', ':', '<', '>', '?', '@', '[', '\\', ']', '^', '|', '%'].contains char

/-- Whether a host is well formed: a bracketed address, or a name without forbidden characters. -/
def isHost (host : List Char) : Bool :=
  match host with
  | '[' :: rest => rest.getLast? == some ']' && rest.dropLast.all fun char =>
      char.isAlphanum || char == ':' || char == '.'
  | _ => !host.isEmpty && !host.any isForbiddenInHost

/-- The upper-case hexadecimal digit for a number below sixteen. -/
def hexDigit (value : Nat) : Char :=
  if value < 10 then Char.ofNat (48 + value) else Char.ofNat (55 + value)

/-- A character as it stands in a path: blanks, controls, quotation marks and everything beyond
ASCII are written as their bytes in hexadecimal. -/
def pathChar (char : Char) : List Char :=
  if char.toNat ≤ 0x20 || 0x7F ≤ char.toNat || char.toNat == 0x60 ||
      ['"', '<', '>', '\x7b', '\x7d'].contains char then
    char.toString.toUTF8.toList.flatMap fun byte =>
      ['%', hexDigit (byte.toNat / 16), hexDigit (byte.toNat % 16)]
  else [char]

/-- Splits a text at every slash. -/
def segments : List Char → List (List Char)
  | [] => [[]]
  | '/' :: rest => [] :: segments rest
  | char :: rest =>
    match segments rest with
    | first :: others => (char :: first) :: others
    | [] => [[char]]

/-- Follows the segments of a path: one dot stays, two dots go up. -/
def follow (walked : List (List Char)) : List (List Char) → List (List Char)
  | [] => walked.reverse
  | ['.'] :: [] => ([] :: walked).reverse
  | ['.', '.'] :: [] => ([] :: walked.drop 1).reverse
  | ['.'] :: rest => follow walked rest
  | ['.', '.'] :: rest => follow (walked.drop 1) rest
  | segment :: rest => follow (segment :: walked) rest

/-- The path in its normal form. -/
def normalPath (path : List Char) : List Char :=
  let given := match path with
    | '/' :: rest => rest
    | rest => rest
  (follow [] (segments given)).flatMap fun segment => '/' :: segment.flatMap pathChar

/-- Host and port in their normal form. -/
def authority? (scheme : String) (text : List Char) : Option (List Char) :=
  let address := match (text.reverse.span (· != '@')) with
    | (reversed, _) => reversed.reverse
  let (host, port) := match address with
    | '[' :: _ =>
      let (inner, rest) := address.span (· != ']')
      (inner ++ rest.take 1, rest.drop 1)
    | _ => address.span (· != ':')
  let host := host.map Char.toLower
  if !isHost host then none
  else
    match port with
    | [] | [':'] => some host
    | ':' :: numeral =>
      let number := Decimal.value numeral
      if !numeral.all Decimal.isDigit || 65535 < number then none
      else if usualPort? scheme == some number then some host
      else some (host ++ ':' :: Decimal.digits number)
    | _ => none

/-- The parts of an address after host and port: path, query and fragment. -/
def tailOf (text : List Char) : List Char :=
  let (path, rest) := text.span fun char => char != '?' && char != '#'
  normalPath path ++ rest.flatMap pathChar

/-- Reads an absolute address. -/
def read? (text : String) : Option Url :=
  let input := cleaned text
  let (scheme, rest) := input.span isSchemeChar
  match scheme, rest with
  | first :: _, ':' :: rest =>
    if !first.isAlpha then none
    else
      let scheme := scheme.map Char.toLower
      let name := String.ofList scheme
      match usualPort? name with
      | some _ =>
        let slashed := rest.map fun char => if char == '\\' then '/' else char
        let (text, tail) := (slashed.dropWhile (· == '/')).span fun char =>
          char != '/' && char != '?' && char != '#'
        (authority? name text).map fun authority => ⟨scheme, some authority, tailOf tail⟩
      | none =>
        match rest with
        | '/' :: '/' :: rest =>
          let (text, tail) := rest.span fun char => char != '/' && char != '?' && char != '#'
          if text.isEmpty then some ⟨scheme, none, rest⟩
          else (authority? name text).map fun authority => ⟨scheme, some authority, tail⟩
        | rest => some ⟨scheme, none, rest⟩
  | _, _ => none

/-- The text of an address. -/
def text (url : Url) : String :=
  String.ofList (url.scheme ++ ':' ::
    match url.authority with
    | some authority => '/' :: '/' :: (authority ++ url.tail)
    | none => url.tail)

/-- Whether requests can be sent to the address: it has a host, and the web's scheme. -/
def takesRequests (url : Url) : Bool :=
  url.authority.isSome && ["http", "https"].contains (String.ofList url.scheme)

end Url

end ReleaseCatalog
