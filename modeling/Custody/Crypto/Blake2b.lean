import Custody.Bytes

/-!
# `Custody.Crypto.Blake2b`: the BLAKE2b hash

RFC 7693 without a key, for any output length from 1 to 64 bytes. It is the hash inside the
memory-hard password hash of `Custody.Crypto.Argon2`.
-/

set_option autoImplicit false

namespace Custody.Crypto.Blake2b

/-- The eight initial words, those of SHA-512. -/
def initial : List UInt64 := [
  0x6a09e667f3bcc908, 0xbb67ae8584caa73b, 0x3c6ef372fe94f82b, 0xa54ff53a5f1d36f1,
  0x510e527fade682d1, 0x9b05688c2b3e6c1f, 0x1f83d9abfb41bd6b, 0x5be0cd19137e2179]

/-- The order in which each of the ten kinds of round takes the message words. -/
def orders : List (List Nat) := [
  [0, 1, 2, 3, 4, 5, 6, 7, 8, 9, 10, 11, 12, 13, 14, 15],
  [14, 10, 4, 8, 9, 15, 13, 6, 1, 12, 0, 2, 11, 7, 5, 3],
  [11, 8, 12, 0, 5, 2, 15, 13, 10, 14, 3, 6, 7, 1, 9, 4],
  [7, 9, 3, 1, 13, 12, 11, 14, 2, 6, 5, 10, 4, 0, 15, 8],
  [9, 0, 5, 7, 2, 4, 10, 15, 14, 1, 11, 12, 6, 8, 3, 13],
  [2, 12, 6, 10, 0, 11, 8, 3, 4, 13, 7, 5, 15, 14, 1, 9],
  [12, 5, 1, 15, 14, 13, 4, 10, 0, 7, 6, 3, 9, 2, 8, 11],
  [13, 11, 7, 14, 12, 1, 3, 9, 5, 0, 15, 4, 8, 6, 2, 10],
  [6, 15, 14, 9, 11, 3, 0, 8, 12, 2, 13, 7, 1, 4, 10, 5],
  [10, 2, 8, 4, 7, 6, 1, 5, 15, 11, 9, 14, 3, 12, 13, 0]]

/-- The four positions of the working vector that each of the eight mixings of a round joins:
the four columns, then the four diagonals. -/
def lanes : List (Nat × Nat × Nat × Nat) := [
  (0, 4, 8, 12), (1, 5, 9, 13), (2, 6, 10, 14), (3, 7, 11, 15),
  (0, 5, 10, 15), (1, 6, 11, 12), (2, 7, 8, 13), (3, 4, 9, 14)]

/-- A word, turned right by some bits. -/
@[inline] def rotr (x n : UInt64) : UInt64 := (x >>> n) ||| (x <<< (64 - n))

/-- Mixes the message words `x` and `y` into four positions of the working vector. -/
def mix (v : Array UInt64) (at4 : Nat × Nat × Nat × Nat) (x y : UInt64) : Array UInt64 :=
  let (i, j, k, l) := at4
  let a := v.getD i 0
  let b := v.getD j 0
  let c := v.getD k 0
  let d := v.getD l 0
  let a := a + b + x
  let d := rotr (d ^^^ a) 32
  let c := c + d
  let b := rotr (b ^^^ c) 24
  let a := a + b + y
  let d := rotr (d ^^^ a) 16
  let c := c + d
  let b := rotr (b ^^^ c) 63
  (((v.setIfInBounds i a).setIfInBounds j b).setIfInBounds k c).setIfInBounds l d

/-- One round: eight mixings, each with the next two message words of the round's order. -/
def round (message : Array UInt64) (v : Array UInt64) (order : List Nat) : Array UInt64 :=
  let words := order.map fun i => message.getD i 0
  (lanes.zip (List.range 8)).foldl
    (fun v (at4, i) => mix v at4 (words.getD (2 * i) 0) (words.getD (2 * i + 1) 0)) v

/-- Mixes one 128-byte block into the state. `taken` counts the message bytes up to the end of
this block. -/
def compress (h : List UInt64) (block : Bytes) (taken : Nat) (last : Bool) : List UInt64 :=
  let message := ((block.chunks 8).map Bytes.toUInt64LE).toArray
  -- The count has two words, and the last block is marked by a third.
  let tail := initial.mapIdx fun i w =>
    if i = 4 then w ^^^ UInt64.ofNat taken
    else if i = 5 then w ^^^ UInt64.ofNat (taken / UInt64.size)
    else if i = 6 then (if last then ~~~ w else w)
    else w
  -- Twelve rounds: the orders start over after the tenth.
  let v := (orders ++ orders.take 2).foldl (round message) (h ++ tail).toArray
  h.mapIdx fun i w => w ^^^ v.getD i 0 ^^^ v.getD (i + 8) 0

/-- Takes in the blocks in order. The last one may be short and is filled up with zeros. -/
def absorb (h : List UInt64) (taken : Nat) : List Bytes → List UInt64
  | [] => compress h (List.replicate 128 0) taken true
  | [block] =>
    compress h (block ++ List.replicate (128 - block.length) 0) (taken + block.length) true
  | block :: rest => absorb (compress h block (taken + 128) false) (taken + 128) rest

/-- The digest of a message, `size` bytes long. -/
def digest (size : Nat) (message : Bytes) : Bytes :=
  -- The parameters enter the first word: no key, a fan-out and a depth of one, and the
  -- length.
  let h := initial.mapIdx fun i w =>
    if i = 0 then w ^^^ 0x01010000 ^^^ UInt64.ofNat size else w
  ((absorb h 0 (message.chunks 128)).flatMap Bytes.ofUInt64LE).take size

end Custody.Crypto.Blake2b
