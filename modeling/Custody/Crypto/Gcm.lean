import Custody.Crypto.Aes256

/-!
# `Custody.Crypto.Gcm`: authenticated encryption with AES-256

NIST SP 800-38D with a 12-byte nonce, a 16-byte tag and no associated data. `encrypt` adds a
keystream to the plaintext and appends the tag of the result; `decrypt?` recomputes that tag
and gives the plaintext only where it is the one that came with the data.

The limit on the length of a message is left out. The block counter has four bytes, so the standard
refuses messages of more than 2 ^ 36 - 32 bytes. Here data of any length is taken, and the counter
starts again from zero.
-/

set_option autoImplicit false

namespace Custody.Crypto.Gcm

/-- Bytes of a tag. -/
def tagLength : Nat := 16

/-- The product in the field of 2 ^ 128 elements, in which the highest bit of a word is the
constant coefficient. -/
def multiply (x y : BitVec 128) : BitVec 128 :=
  ((List.range 128).foldl (fun (z, v) i =>
    (if x.getMsbD i then z ^^^ v else z,
     if v.getLsbD 0 then (v >>> 1) ^^^ (0xe1#128 <<< 120) else v >>> 1)) (0#128, y)).1

/-- The hash of whole blocks under the key `h`. -/
def ghash (h : BitVec 128) (blocks : List Bytes) : BitVec 128 :=
  blocks.foldl (fun y block => multiply (y ^^^ BitVec.ofNat 128 block.toNatBE) h) 0#128

/-- The string filled up with zeros to whole blocks of sixteen bytes. -/
def padded (data : Bytes) : Bytes :=
  data ++ List.replicate ((16 - data.length % 16) % 16) 0

/-- The counter block with this nonce and this count. -/
def counterBlock (nonce : Block 12) (count : Nat) : Bytes :=
  nonce.bytes ++ Bytes.ofNatBE 4 count

/-- At least `length` bytes of keystream; its first block has count 2. -/
def keystream (keys : List Bytes) (nonce : Block 12) (length : Nat) : Bytes :=
  (List.range ((length + 15) / 16)).flatMap fun i =>
    Aes256.encrypt keys (counterBlock nonce (i + 2))

/-- The data with the keystream added. Doing so twice gives the data back. -/
def addKeystream (keys : List Bytes) (nonce : Block 12) (data : Bytes) : Bytes :=
  data.xor (keystream keys nonce data.length)

/-- The authentication tag of a ciphertext. -/
def tag (keys : List Bytes) (nonce : Block 12) (ciphertext : Bytes) : Bytes :=
  let h := BitVec.ofNat 128 (Aes256.encrypt keys (List.replicate 16 0)).toNatBE
  -- There is no associated data, so the first half of this block is zero.
  let lengths := Bytes.ofNatBE 16 (8 * ciphertext.length)
  let sum := ghash h ((padded ciphertext ++ lengths).chunks 16)
  (Bytes.ofNatBE 16 sum.toNat).xor (Aes256.encrypt keys (counterBlock nonce 1))

/-- The ciphertext followed by its tag. -/
def encrypt (key : Block 32) (nonce : Block 12) (plaintext : Bytes) : Bytes :=
  let keys := Aes256.roundKeys key
  let ciphertext := addKeystream keys nonce plaintext
  ciphertext ++ tag keys nonce ciphertext

/-- The plaintext of `data`, if `data` ends in the tag of what comes before. -/
def decrypt? (key : Block 32) (nonce : Block 12) (data : Bytes) : Option Bytes :=
  let keys := Aes256.roundKeys key
  let ciphertext := data.take (data.length - tagLength)
  if tagLength ≤ data.length ∧ data.drop (data.length - tagLength) = tag keys nonce ciphertext then
    some (addKeystream keys nonce ciphertext)
  else none

end Custody.Crypto.Gcm
