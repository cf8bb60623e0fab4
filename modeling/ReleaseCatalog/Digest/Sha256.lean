/-
The SHA-256 digest of a sequence of bytes, and its hexadecimal text.

The message is padded to whole blocks of 64 bytes. Each block is expanded to a schedule of 64
words, and one round for each word is applied to the eight words of the running state.
-/

namespace ReleaseCatalog.Sha256

/-- The first 32 bits of the fractional parts of the cube roots of the first 64 primes. -/
def roundConstants : Array UInt32 := #[
  0x428a2f98, 0x71374491, 0xb5c0fbcf, 0xe9b5dba5, 0x3956c25b, 0x59f111f1, 0x923f82a4, 0xab1c5ed5,
  0xd807aa98, 0x12835b01, 0x243185be, 0x550c7dc3, 0x72be5d74, 0x80deb1fe, 0x9bdc06a7, 0xc19bf174,
  0xe49b69c1, 0xefbe4786, 0x0fc19dc6, 0x240ca1cc, 0x2de92c6f, 0x4a7484aa, 0x5cb0a9dc, 0x76f988da,
  0x983e5152, 0xa831c66d, 0xb00327c8, 0xbf597fc7, 0xc6e00bf3, 0xd5a79147, 0x06ca6351, 0x14292967,
  0x27b70a85, 0x2e1b2138, 0x4d2c6dfc, 0x53380d13, 0x650a7354, 0x766a0abb, 0x81c2c92e, 0x92722c85,
  0xa2bfe8a1, 0xa81a664b, 0xc24b8b70, 0xc76c51a3, 0xd192e819, 0xd6990624, 0xf40e3585, 0x106aa070,
  0x19a4c116, 0x1e376c08, 0x2748774c, 0x34b0bcb5, 0x391c0cb3, 0x4ed8aa4a, 0x5b9cca4f, 0x682e6ff3,
  0x748f82ee, 0x78a5636f, 0x84c87814, 0x8cc70208, 0x90befffa, 0xa4506ceb, 0xbef9a3f7, 0xc67178f2]

/-- The eight words of the running digest. -/
structure Digest where
  a : UInt32
  b : UInt32
  c : UInt32
  d : UInt32
  e : UInt32
  f : UInt32
  g : UInt32
  h : UInt32

/-- The first 32 bits of the fractional parts of the square roots of the first eight primes. -/
def start : Digest :=
  ⟨0x6a09e667, 0xbb67ae85, 0x3c6ef372, 0xa54ff53a, 0x510e527f, 0x9b05688c, 0x1f83d9ab, 0x5be0cd19⟩

/-- The word with its bits moved right, those that fall off coming back on the left. -/
def rotate (word : UInt32) (places : UInt32) : UInt32 :=
  (word >>> places) ||| (word <<< (32 - places))

/-- The message followed by one set bit, zeros, and its length in bits, in whole blocks. -/
def padded (message : ByteArray) : ByteArray :=
  let bits := message.size * 8
  let marked := message.push 0x80
  let zeros := (119 - message.size % 64) % 64
  let filled := (List.range zeros).foldl (fun bytes _ => bytes.push 0) marked
  (List.range 8).foldl (fun bytes place => bytes.push (UInt8.ofNat (bits >>> (8 * (7 - place)))))
    filled

/-- The big-endian word at a position. -/
def wordAt (bytes : ByteArray) (position : Nat) : UInt32 :=
  let byte (offset : Nat) : UInt32 := ((bytes[position + offset]?).getD 0).toUInt32
  (byte 0 <<< 24) ||| (byte 1 <<< 16) ||| (byte 2 <<< 8) ||| byte 3

/-- The schedule of 64 words of the block at a position. -/
def schedule (bytes : ByteArray) (position : Nat) : Array UInt32 :=
  let first := (List.range 16).foldl (fun words index =>
    words.push (wordAt bytes (position + 4 * index))) (Array.mkEmpty 64)
  (List.range 48).foldl (fun words index =>
    let word (back : Nat) : UInt32 := (words[index + 16 - back]?).getD 0
    let low := rotate (word 15) 7 ^^^ rotate (word 15) 18 ^^^ (word 15 >>> 3)
    let high := rotate (word 2) 17 ^^^ rotate (word 2) 19 ^^^ (word 2 >>> 10)
    words.push (word 16 + low + word 7 + high)) first

/-- One round. -/
def round (state : Digest) (constant word : UInt32) : Digest :=
  let mixed := rotate state.e 6 ^^^ rotate state.e 11 ^^^ rotate state.e 25
  let choice := (state.e &&& state.f) ^^^ ((~~~ state.e) &&& state.g)
  let added := state.h + mixed + choice + constant + word
  let spread := rotate state.a 2 ^^^ rotate state.a 13 ^^^ rotate state.a 22
  let majority := (state.a &&& state.b) ^^^ (state.a &&& state.c) ^^^ (state.b &&& state.c)
  { a := added + spread + majority, b := state.a, c := state.b, d := state.c
    e := state.d + added, f := state.e, g := state.f, h := state.g }

/-- The digest after one more block. -/
def block (bytes : ByteArray) (state : Digest) (position : Nat) : Digest :=
  let words := schedule bytes position
  let last := (List.range 64).foldl (fun state index =>
    round state ((roundConstants[index]?).getD 0) ((words[index]?).getD 0)) state
  ⟨state.a + last.a, state.b + last.b, state.c + last.c, state.d + last.d,
    state.e + last.e, state.f + last.f, state.g + last.g, state.h + last.h⟩

/-- The digest of a message. -/
def digest (message : ByteArray) : Digest :=
  let bytes := padded message
  (List.range (bytes.size / 64)).foldl (fun state index => block bytes state (64 * index)) start

/-- The eight hexadecimal digits of a word, in lower case. -/
def hexWord (word : UInt32) : List Char :=
  (List.range 8).map fun place =>
    let nibble := (word.toNat >>> (4 * (7 - place))) % 16
    if nibble < 10 then Char.ofNat (48 + nibble) else Char.ofNat (87 + nibble)

/-- The hexadecimal text of the digest of a message. -/
def hex (message : ByteArray) : String :=
  let state := digest message
  String.ofList (hexWord state.a ++ hexWord state.b ++ hexWord state.c ++ hexWord state.d ++
    hexWord state.e ++ hexWord state.f ++ hexWord state.g ++ hexWord state.h)

end ReleaseCatalog.Sha256
