import Custody.Crypto.Ed25519
import Custody.Proofs.Crypto.Ed25519.Point

/-!
# `Custody.Proofs.Crypto.Ed25519.Signature`: signatures verify

`verify_sign`: what a seed signs is accepted under its public key, whatever the message. With
`s = r + k a`, the point that `verify` recomputes is `s B - k (a B)`, which is `r B`, the point
in the signature. Nothing is assumed of the digests that give `a`, `r` and `k`.
-/

set_option autoImplicit false

namespace Custody.Crypto.Ed25519

/-- The coordinates of a sum are those of the neutral element when x is zero and y is one. -/
theorem order_nsmul_generator : order • generator = 0 := by
  have hrepresents := represents_base.mul (n := order) (by decide)
  -- The one long computation: the coordinates after all doublings.
  have hx : (Point.base.mul order).x = 0 := by decide +kernel
  have hy : (Point.base.mul order).y = (Point.base.mul order).z := by decide +kernel
  have hxzero := hrepresents.x_eq
  rw [hx, Field.residue_zero] at hxzero
  have hyone := hrepresents.y_eq
  rw [hy] at hyone
  ext
  · exact (mul_eq_zero.mp hxzero.symm).resolve_right hrepresents.z_ne_zero
  · exact (mul_eq_right₀ hrepresents.z_ne_zero).mp hyone.symm

/-- Multiples of the generator go by the number modulo the order. -/
theorem mod_order_nsmul (n : ℕ) : (n % order) • generator = n • generator :=
  (nsmul_eq_mod_nsmul n order_nsmul_generator).symm

/-- A number that is reduced by the order has at most 256 bits. -/
theorem mod_order_shiftRight (n : ℕ) : (n % order) >>> 256 = 0 := by
  have hlt : n % order < 1 <<< 256 := (Nat.mod_lt n (by decide)).trans (by decide)
  rw [Nat.shiftRight_eq_div_pow, ← Nat.one_shiftLeft]
  exact Nat.div_eq_of_lt hlt

/-- The factor of the base point may be reduced by its order. -/
theorem represents_mul_mod (n : ℕ) : Represents (Point.base.mul (n % order)) (n • generator) := by
  rw [← mod_order_nsmul]
  exact represents_base.mul (mod_order_shiftRight n)

section
variable (seed : Block 32) (message : Bytes)

/-- The number that is drawn for a message: the `r` of its signature. -/
def drawn : ℕ := scalar ((expand seed).2 ++ message)

/-- The first half of a signature: the bytes of `r B`. -/
def commitment : Block 32 := (Point.base.mul (drawn seed message)).encode

/-- What the second half answers to: the `k` of the signature. -/
def challenge : ℕ :=
  scalar ((commitment seed message).bytes ++ (publicKey seed).bytes ++ message)

/-- The second half of a signature: the `s` that stands for `r + k a`. -/
def response : ℕ :=
  (drawn seed message + challenge seed message * (expand seed).1) % order

/-- A signature is a commitment followed by a response. -/
theorem sign_bytes :
    (sign seed message).bytes
      = (commitment seed message).bytes ++ Bytes.ofNatLE 32 (response seed message) := by
  have hlength : ((commitment seed message).bytes
      ++ Bytes.ofNatLE 32 (response seed message)).length = 64 := by
    rw [List.length_append, Block.length_bytes, Bytes.length_ofNatLE]
  exact Bytes.bytes_toBlock hlength

/-- The first half of a signature is the commitment. -/
theorem take_sign : (sign seed message).bytes.take 32 = (commitment seed message).bytes := by
  rw [sign_bytes]
  exact List.take_left' (Block.length_bytes _)

/-- The second half reads as the response. -/
theorem toNatLE_drop_sign :
    Bytes.toNatLE ((sign seed message).bytes.drop 32) = response seed message := by
  rw [sign_bytes, List.drop_left' (Block.length_bytes _)]
  exact Bytes.toNatLE_ofNatLE (mod_order_shiftRight _)

/-- The equation that a signature solves: `k (- a B) + s B = r B`. -/
theorem response_nsmul :
    challenge seed message • -((expand seed).1 • generator) + response seed message • generator
      = drawn seed message • generator := by
  rw [response, mod_order_nsmul, add_nsmul, mul_nsmul', smul_neg]
  abel

/-- What a seed signs is accepted under its public key. -/
theorem verify_sign : verify (publicKey seed) message (sign seed message) = true := by
  -- `A` are the coordinates that `verify` reads back from the public key.
  obtain ⟨A, hdecode, hA⟩ := (represents_mul_mod (expand seed).1).decode?_encode
  have hkey : Point.decode? (publicKey seed) = some A := hdecode
  have hchallenge : challenge seed message >>> 256 = 0 := mod_order_shiftRight _
  have hresponse : response seed message >>> 256 = 0 := mod_order_shiftRight _
  have hdrawn : drawn seed message >>> 256 = 0 := mod_order_shiftRight _
  have hsum := (hA.neg.mul hchallenge).add (represents_base.mul hresponse)
  rw [response_nsmul] at hsum
  -- Both sums of coordinates are those of `r B`, so their bytes agree.
  have hencode := hsum.encode_eq (represents_base.mul hdrawn)
  have hlt : response seed message < order := Nat.mod_lt _ (by decide)
  unfold verify
  simp only [hkey, take_sign, toNatLE_drop_sign]
  rw [decide_eq_true hlt, Bool.true_and, decide_eq_true_eq]
  exact congrArg Block.bytes hencode

end

end Custody.Crypto.Ed25519
