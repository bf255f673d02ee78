import Custody.Crypto.Ed25519.Point
import Custody.Crypto.Sha512

/-!
# `Custody.Crypto.Ed25519`: signatures

RFC 8032. A private key is a seed of 32 bytes; its SHA-512 digest gives the secret scalar and
the source of the nonces, so signing needs no randomness. A signature is the point `R` and the
scalar `s`, 32 bytes each.

`verify` takes one of the two readings the RFC allows and is exact about it: `s` has to be
below the group order, `R` is compared as the bytes of the recomputed point, and the cofactor
is not multiplied out.
-/

set_option autoImplicit false

namespace Custody.Crypto.Ed25519

/-- The order of the group that the base point generates: the prime
2 ^ 252 + 27742317777372353535851937790883648493. -/
def order : Nat := 7237005577332262213973186563042994240857116359379907606001950938285454250989

/-- The secret scalar and the source of nonces of a seed. The scalar has its lowest three bits
clear and its highest bit at 254. -/
def expand (seed : Block 32) : Nat × Bytes :=
  let h := (Sha512.digest seed.bytes).bytes
  let n := Bytes.toNatLE (h.take 32)
  ((1 <<< 254) + n % (1 <<< 254) / 8 * 8, h.drop 32)

/-- The public key of a seed. -/
def publicKey (seed : Block 32) : Block 32 :=
  (Point.base.mul ((expand seed).1 % order)).encode

/-- The SHA-512 digest of the parts as a scalar. -/
def scalar (parts : Bytes) : Nat := (Sha512.digest parts).bytes.toNatLE % order

/-- The signature of a message. -/
def sign (seed : Block 32) (message : Bytes) : Block 64 :=
  let (a, nonces) := expand seed
  let r := scalar (nonces ++ message)
  let R := (Point.base.mul r).encode
  let k := scalar (R.bytes ++ (publicKey seed).bytes ++ message)
  let s := (r + k * a) % order
  Bytes.toBlock 64 (R.bytes ++ Bytes.ofNatLE 32 s)

/-- Whether 32 bytes are a public key: whether they decode to a point. -/
def isPublicKey (key : Block 32) : Bool := (Point.decode? key).isSome

/-- Whether the signature is one of the message under the key. -/
def verify (key : Block 32) (message : Bytes) (signature : Block 64) : Bool :=
  match Point.decode? key with
  | none => false
  | some A =>
    let R := signature.bytes.take 32
    let s := Bytes.toNatLE (signature.bytes.drop 32)
    let k := scalar (R ++ key.bytes ++ message)
    decide (s < order) && decide (((A.neg.mul k).add (Point.base.mul s)).encode.bytes = R)

end Custody.Crypto.Ed25519
