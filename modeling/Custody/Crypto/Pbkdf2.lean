import Custody.Crypto.Sha512

/-!
# `Custody.Crypto.Pbkdf2`: HMAC-SHA-512 and the key derivation built on it

`Hmac.Key` holds the two states a key leaves behind, so that each of the many messages hashed
under one key costs two compressions. `pbkdf2` is the derivation of RFC 8018 for one output
block, which is all that a recovery phrase asks for: its seed is 64 bytes long.
-/

set_option autoImplicit false

namespace Custody.Crypto

namespace Hmac

/-- A key, as the states of the inner and the outer hash after it. -/
structure Key where
  inner : Sha512.State
  outer : Sha512.State

/-- A key longer than a block is hashed first; a shorter one is filled up with zeros. -/
def Key.ofBytes (key : Bytes) : Key :=
  let key := if key.length ≤ 128 then key else (Sha512.digest key).bytes
  let key := key ++ List.replicate (128 - key.length) 0
  { inner := Sha512.compress Sha512.initial (key.map (· ^^^ 0x36))
    outer := Sha512.compress Sha512.initial (key.map (· ^^^ 0x5c)) }

/-- The authentication code of a message. -/
def Key.code (key : Key) (message : Bytes) : Block 64 :=
  Sha512.digestFrom key.outer 128 (Sha512.digestFrom key.inner 128 message).bytes

end Hmac

namespace Pbkdf2

/-- Goes `n` iterations on from the code `u`, adding each new code to `sum`. -/
def iterate (key : Hmac.Key) : (n : Nat) → (u sum : Bytes) → Bytes
  | 0, _, sum => sum
  | n + 1, u, sum =>
    let u := (key.code u).bytes
    iterate key n u (sum.xor u)

/-- The first 64 bytes derived from a password and a salt by `rounds` iterations. -/
def derive (password salt : Bytes) (rounds : Nat) : Bytes :=
  let key := Hmac.Key.ofBytes password
  let u := (key.code (salt ++ Bytes.ofNatBE 4 1)).bytes
  iterate key (rounds - 1) u u

end Pbkdf2

end Custody.Crypto
