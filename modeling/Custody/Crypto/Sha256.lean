import Custody.Bytes

/-!
# `Custody.Crypto.Sha256`: the SHA-256 hash

FIPS 180-4 on byte strings. The message is padded to whole 64-byte blocks, each block is
stretched to 64 words (`schedule`) and mixed into the eight-word state (`compress`). The
wallet hashes signing payloads with it, and a phrase's checksum is its first bits.
-/

set_option autoImplicit false

namespace Custody.Crypto.Sha256

/-- The chaining value. -/
structure State where
  a : UInt32
  b : UInt32
  c : UInt32
  d : UInt32
  e : UInt32
  f : UInt32
  g : UInt32
  h : UInt32

/-- The first 32 bits of the fractional parts of the square roots of the first 8 primes. -/
def initial : State where
  a := 0x6a09e667
  b := 0xbb67ae85
  c := 0x3c6ef372
  d := 0xa54ff53a
  e := 0x510e527f
  f := 0x9b05688c
  g := 0x1f83d9ab
  h := 0x5be0cd19

/-- The first 32 bits of the fractional parts of the cube roots of the first 64 primes. -/
def constants : List UInt32 := [
  0x428a2f98, 0x71374491, 0xb5c0fbcf, 0xe9b5dba5, 0x3956c25b, 0x59f111f1, 0x923f82a4, 0xab1c5ed5,
  0xd807aa98, 0x12835b01, 0x243185be, 0x550c7dc3, 0x72be5d74, 0x80deb1fe, 0x9bdc06a7, 0xc19bf174,
  0xe49b69c1, 0xefbe4786, 0x0fc19dc6, 0x240ca1cc, 0x2de92c6f, 0x4a7484aa, 0x5cb0a9dc, 0x76f988da,
  0x983e5152, 0xa831c66d, 0xb00327c8, 0xbf597fc7, 0xc6e00bf3, 0xd5a79147, 0x06ca6351, 0x14292967,
  0x27b70a85, 0x2e1b2138, 0x4d2c6dfc, 0x53380d13, 0x650a7354, 0x766a0abb, 0x81c2c92e, 0x92722c85,
  0xa2bfe8a1, 0xa81a664b, 0xc24b8b70, 0xc76c51a3, 0xd192e819, 0xd6990624, 0xf40e3585, 0x106aa070,
  0x19a4c116, 0x1e376c08, 0x2748774c, 0x34b0bcb5, 0x391c0cb3, 0x4ed8aa4a, 0x5b9cca4f, 0x682e6ff3,
  0x748f82ee, 0x78a5636f, 0x84c87814, 0x8cc70208, 0x90befffa, 0xa4506ceb, 0xbef9a3f7, 0xc67178f2]

/-- A word, turned right by some bits. -/
@[inline] def rotr (x n : UInt32) : UInt32 := (x >>> n) ||| (x <<< (32 - n))

/-- One round: the word `w` and the round constant `k` enter, the state shifts by one. -/
def round (s : State) (k w : UInt32) : State :=
  let t1 := s.h + (rotr s.e 6 ^^^ rotr s.e 11 ^^^ rotr s.e 25)
    + ((s.e &&& s.f) ^^^ (~~~ s.e &&& s.g)) + k + w
  let t2 := (rotr s.a 2 ^^^ rotr s.a 13 ^^^ rotr s.a 22)
    + ((s.a &&& s.b) ^^^ (s.a &&& s.c) ^^^ (s.b &&& s.c))
  ⟨t1 + t2, s.a, s.b, s.c, s.d + t1, s.e, s.f, s.g⟩

/-- Appends `n` words, each computed from the sixteen before it. -/
def extend : (n : Nat) → Array UInt32 → Array UInt32
  | 0, words => words
  | n + 1, words =>
    let t := words.size
    let w2 := words.getD (t - 2) 0
    let w15 := words.getD (t - 15) 0
    extend n <| words.push <|
      (rotr w2 17 ^^^ rotr w2 19 ^^^ (w2 >>> 10)) + words.getD (t - 7) 0
      + (rotr w15 7 ^^^ rotr w15 18 ^^^ (w15 >>> 3)) + words.getD (t - 16) 0

/-- The 64 round words of a block: its own sixteen and 48 more. -/
def schedule (block : Bytes) : List UInt32 :=
  (extend 48 ((block.chunks 4).map Bytes.toUInt32BE).toArray).toList

/-- Mixes one 64-byte block into the state. -/
def compress (s : State) (block : Bytes) : State :=
  let r := (constants.zip (schedule block)).foldl (fun r (k, w) => round r k w) s
  ⟨s.a + r.a, s.b + r.b, s.c + r.c, s.d + r.d, s.e + r.e, s.f + r.f, s.g + r.g, s.h + r.h⟩

/-- The message, a one bit, zeros up to 8 bytes short of a whole block, and the bit length. -/
def pad (message : Bytes) : Bytes :=
  -- From 56 bytes in the last block on, there is no room for the length, and a block is
  -- added.
  message ++ 0x80 :: List.replicate ((119 - message.length % 64) % 64) 0
    ++ Bytes.ofNatBE 8 (8 * message.length)

/-- The eight words of the state, one after the other. -/
def State.bytes (s : State) : Bytes :=
  [s.a, s.b, s.c, s.d, s.e, s.f, s.g, s.h].flatMap Bytes.ofUInt32BE

/-- The state has 32 bytes. -/
theorem State.length_bytes (s : State) : s.bytes.length = 32 := rfl

/-- The SHA-256 digest of a message. -/
def digest (message : Bytes) : Block 32 :=
  let s := ((pad message).chunks 64).foldl compress initial
  ⟨s.bytes.toArray, s.length_bytes⟩

end Custody.Crypto.Sha256
