/-!
# `Custody.Bytes`: byte strings

Everything the wallet hashes, encrypts or signs is a byte string: a `List UInt8`. A string
whose length is part of its meaning (a key, a nonce, a digest) is a `Vector UInt8 n`, so that
no operation has to ask for the length again.

Words are read and written in both byte orders: hash functions of the SHA family are
big-endian, the signing payload and the password hash are little-endian.
-/

set_option autoImplicit false

namespace Custody

/-- A byte string of any length. -/
abbrev Bytes := List UInt8

/-- A byte string of exactly `n` bytes. -/
abbrev Block (n : Nat) := Vector UInt8 n

namespace Bytes

/-- The string as a block, if it has that length. -/
def toBlock? (n : Nat) (bytes : Bytes) : Option (Block n) :=
  if h : bytes.length = n then some ⟨bytes.toArray, by simp [h]⟩ else none

/-- The first `n` bytes, padded with zeros where the string is shorter. -/
def toBlock (n : Nat) (bytes : Bytes) : Block n :=
  Vector.ofFn fun i => bytes.getD i 0

/-- The bytes of a text in UTF-8. -/
def ofText (text : String) : Bytes := text.toUTF8.data.toList

/-- The text that the bytes spell in UTF-8, if they do. -/
def toText? (bytes : Bytes) : Option String :=
  String.fromUTF8? bytes.toByteArray

/-- Position by position exclusive or, as far as both strings reach. -/
def xor (a b : Bytes) : Bytes := List.zipWith (· ^^^ ·) a b

/-- The first `count` pieces of `size` bytes. -/
def pieces (size : Nat) : (count : Nat) → Bytes → List Bytes
  | 0, _ => []
  | count + 1, bytes => bytes.take size :: pieces size count (bytes.drop size)

/-- The string cut into pieces of `size` bytes, the last one possibly shorter. -/
def chunks (size : Nat) (bytes : Bytes) : List Bytes :=
  pieces size ((bytes.length + size - 1) / size) bytes

/-! ### Numbers as bytes -/

/-- The number whose digits to base 256 are the bytes, lowest first. -/
def toNatLE : Bytes → Nat
  | [] => 0
  | b :: rest => b.toNat + 256 * toNatLE rest

/-- The `width` lowest digits to base 256, lowest first. -/
def ofNatLE : (width : Nat) → Nat → Bytes
  | 0, _ => []
  | width + 1, n => UInt8.ofNat n :: ofNatLE width (n / 256)

/-- The number whose digits to base 256 are the bytes, highest first. -/
def toNatBE (bytes : Bytes) : Nat := toNatLE bytes.reverse

/-- The `width` lowest digits to base 256, highest first. -/
def ofNatBE (width n : Nat) : Bytes := (ofNatLE width n).reverse

/-- A 32-bit word from bytes, highest first. -/
def toUInt32BE (bytes : Bytes) : UInt32 :=
  bytes.foldl (fun word b => word <<< 8 ||| b.toUInt32) 0

/-- A 64-bit word from bytes, highest first. -/
def toUInt64BE (bytes : Bytes) : UInt64 :=
  bytes.foldl (fun word b => word <<< 8 ||| b.toUInt64) 0

/-- A 64-bit word from bytes, lowest first. -/
def toUInt64LE (bytes : Bytes) : UInt64 :=
  bytes.foldr (fun b word => word <<< 8 ||| b.toUInt64) 0

/-- The four bytes of a word, highest first. -/
def ofUInt32BE (word : UInt32) : Bytes :=
  [(word >>> 24).toUInt8, (word >>> 16).toUInt8, (word >>> 8).toUInt8, word.toUInt8]

/-- The eight bytes of a word, highest first. -/
def ofUInt64BE (word : UInt64) : Bytes :=
  [(word >>> 56).toUInt8, (word >>> 48).toUInt8, (word >>> 40).toUInt8, (word >>> 32).toUInt8,
   (word >>> 24).toUInt8, (word >>> 16).toUInt8, (word >>> 8).toUInt8, word.toUInt8]

/-- The eight bytes of a word, lowest first. -/
def ofUInt64LE (word : UInt64) : Bytes :=
  [word.toUInt8, (word >>> 8).toUInt8, (word >>> 16).toUInt8, (word >>> 24).toUInt8,
   (word >>> 32).toUInt8, (word >>> 40).toUInt8, (word >>> 48).toUInt8, (word >>> 56).toUInt8]

/-- A number is written in as many bytes as were asked for, lowest first. -/
@[simp] theorem length_ofNatLE (width n : Nat) : (ofNatLE width n).length = width := by
  induction width generalizing n with
  | zero => rfl
  | succ width ih => simp [ofNatLE, ih]

/-- A number is written in as many bytes as were asked for, highest first. -/
@[simp] theorem length_ofNatBE (width n : Nat) : (ofNatBE width n).length = width := by
  simp [ofNatBE]

/-- Where one string is longer, the rest of it is dropped. -/
@[simp] theorem length_xor (a b : Bytes) : (xor a b).length = min a.length b.length := by
  simp [xor]

end Bytes

namespace Block

/-- The bytes of a block as a byte string. -/
def bytes {n : Nat} (block : Block n) : Bytes := block.toList

/-- A block has its length. -/
@[simp] theorem length_bytes {n : Nat} (block : Block n) : block.bytes.length = n := by
  simp [bytes]

/-- A block is its bytes. -/
theorem bytes_inj {n : Nat} {a b : Block n} : a.bytes = b.bytes ↔ a = b := by
  simp [bytes, Vector.toList_inj]

end Block

namespace Bytes

/-- The bytes of a block make that block. -/
@[simp] theorem toBlock?_bytes {n : Nat} (block : Block n) :
    toBlock? n block.bytes = some block := by
  simp [toBlock?, Block.bytes, Vector.toList]

/-- Bytes that make a block are its bytes. -/
theorem bytes_of_toBlock? {n : Nat} {bytes : Bytes} {block : Block n}
    (h : toBlock? n bytes = some block) : block.bytes = bytes := by
  unfold toBlock? at h
  split at h
  · cases h; simp [Block.bytes]
  · cases h

/-- Bytes make no block if there are too few or too many. -/
theorem toBlock?_eq_none_iff {n : Nat} {bytes : Bytes} :
    toBlock? n bytes = none ↔ bytes.length ≠ n := by
  unfold toBlock?
  split <;> simp_all

end Bytes

end Custody
