import Custody.Crypto.Ed25519.Point
import Custody.Proofs.Crypto.Ed25519.Edwards
import Custody.Proofs.Crypto.Ed25519.Prime
import Mathlib.NumberTheory.LegendreSymbol.Basic

/-!
# `Custody.Proofs.Crypto.Ed25519.Field`: powers, inverses and square roots

`residue` takes a field element to the ring of residues modulo the prime, where the theory of
finite fields is at hand. Powers, inverses and the square root of a ratio are there what their
names say: `residue_pow`, `residue_inverse` and `sqrtRatio?_of_square`.
-/

set_option autoImplicit false

namespace Custody.Crypto.Ed25519

/-- The residues by the modulus are a field. -/
instance : Fact (Nat.Prime Field.modulus) := ⟨prime_modulus⟩

namespace Field

/-- A field element in the ring of residues. -/
def residue (a : Field) : ZMod modulus := (a.val : ZMod modulus)

/-- Numbers below the modulus have different residues. -/
theorem residue_injective : Function.Injective residue := by
  intro a b h
  have hval := (ZMod.natCast_eq_natCast_iff' a.val b.val modulus).mp h
  rw [Nat.mod_eq_of_lt a.isLt, Nat.mod_eq_of_lt b.isLt] at hval
  exact Fin.ext hval

/-- Zero stands for zero. -/
@[simp] theorem residue_zero : residue 0 = 0 := Nat.cast_zero

/-- One stands for one. -/
@[simp] theorem residue_one : residue 1 = 1 := Nat.cast_one

/-- A sum of elements is the sum of the residues. -/
@[simp] theorem residue_add (a b : Field) : residue (a + b) = residue a + residue b := by
  unfold residue
  rw [Fin.val_add, ZMod.natCast_mod, Nat.cast_add]

/-- A product of elements is the product of the residues. -/
@[simp] theorem residue_mul (a b : Field) : residue (a * b) = residue a * residue b := by
  unfold residue
  rw [Fin.val_mul, ZMod.natCast_mod, Nat.cast_mul]

/-- A difference of elements is the difference of the residues. -/
@[simp] theorem residue_sub (a b : Field) : residue (a - b) = residue a - residue b := by
  unfold residue
  rw [Fin.sub_def, ZMod.natCast_mod, Nat.cast_add, Nat.cast_sub b.isLt.le, ZMod.natCast_self]
  ring

/-- The opposite element is the opposite residue. -/
@[simp] theorem residue_neg (a : Field) : residue (-a) = -residue a := by
  have hsum := residue_sub 0 a
  rwa [zero_sub, residue_zero, zero_sub] at hsum

/-- Only zero stands for zero. -/
theorem residue_eq_zero {a : Field} : residue a = 0 ↔ a = 0 := by
  rw [← residue_zero]
  exact residue_injective.eq_iff

/-! ### Powers and inverses -/

/-- A power by an exponent of at most 256 bits is the power of the residue. -/
theorem residue_pow (a : Field) {n : ℕ} (hn : n >>> 256 = 0) :
    residue (pow a n) = residue a ^ n := by
  refine foldl_bits (P := fun n r => residue r = residue a ^ n) ?_ ?_ hn
  · rw [residue_one, pow_zero]
  · intro n r bit hr
    have hsquare : residue (r * r) = residue a ^ (2 * n) := by
      rw [residue_mul, hr, ← pow_add, two_mul]
    cases bit with
    | false => simpa using hsquare
    | true =>
        simp only [if_true, Bool.toNat_true]
        rw [residue_mul, hsquare, pow_succ]

/-- The inverse is that of the residue. Zero is its own, here as there. -/
theorem residue_inverse (a : Field) : residue (inverse a) = (residue a)⁻¹ := by
  unfold inverse
  rw [residue_pow a (by decide)]
  by_cases ha : residue a = 0
  · -- Zero is its own inverse in the ring of residues, and a power of zero is zero.
    rw [ha, inv_zero]
    exact zero_pow (by decide)
  · apply eq_inv_of_mul_eq_one_left
    rw [← pow_succ]
    exact ZMod.pow_card_sub_one_eq_one ha

/-! ### Square roots -/

/-- The constant is a root of minus one. -/
theorem sqrtMinusOne_mul_self : sqrtMinusOne * sqrtMinusOne = -1 := by decide +kernel

/-- The residue of the constant is a root of minus one. -/
theorem residue_sqrtMinusOne : residue sqrtMinusOne * residue sqrtMinusOne = -1 := by
  rw [← residue_mul, sqrtMinusOne_mul_self, residue_neg, residue_one]

/-- Of a root and its negative, one is even; it is a root as well. -/
def evenRoot (r : Field) : Field := if r.val % 2 = 0 then r else -r

/-- Of a root and its opposite, the even one is taken. -/
theorem evenRoot_even (r : Field) : (evenRoot r).val % 2 = 0 := by
  unfold evenRoot
  split
  · assumption
  · rename_i hodd
    have hpos : r ≠ 0 := by
      rintro rfl
      exact hodd rfl
    have hlt := r.isLt
    -- The modulus is odd, so `modulus - r` has the other parity.
    have hmodulus : modulus % 2 = 1 := by decide
    rw [Fin.val_neg, if_neg hpos]
    omega

/-- Either of the two has the same square. -/
theorem evenRoot_mul_self (v r : Field) : v * evenRoot r * evenRoot r = v * r * r := by
  unfold evenRoot
  split
  · rfl
  · apply residue_injective
    simp only [residue_mul, residue_neg]
    ring

/-- An element and its negative are not both even, unless they are zero. -/
theorem eq_zero_of_even {r : Field} (h : r.val % 2 = 0) (hneg : (-r).val % 2 = 0) : r = 0 := by
  by_contra hne
  have hlt := r.isLt
  have hmodulus : modulus % 2 = 1 := by decide
  rw [Fin.val_neg, if_neg hne] at hneg
  omega

/-- There is only one even root. -/
theorem eq_evenRoot {v r x : Field} (hv : v ≠ 0) (h : v * r * r = v * x * x)
    (heven : r.val % 2 = 0) : r = evenRoot x := by
  have hsquares := congrArg residue h
  simp only [residue_mul, mul_assoc] at hsquares
  replace hsquares := mul_left_cancel₀ (residue_eq_zero.not.mpr hv) hsquares
  have hsame : evenRoot x = r ∨ evenRoot x = -r := by
    have hroot := mul_self_eq_mul_self_iff.mp hsquares
    rw [← residue_neg, residue_injective.eq_iff, residue_injective.eq_iff] at hroot
    unfold evenRoot
    rcases hroot with rfl | rfl <;> split <;> simp
  rcases hsame with heq | heq
  · exact heq.symm
  · have heven_neg := evenRoot_even x
    rw [heq] at heven_neg
    rw [heq, eq_zero_of_even heven heven_neg]
    rfl

/-- The parity tells which of the two roots an element is. -/
theorem ite_evenRoot (x : Field) : (if x.val % 2 = 1 then -evenRoot x else evenRoot x) = x := by
  unfold evenRoot
  by_cases hparity : x.val % 2 = 0
  · rw [if_pos hparity, if_neg (by omega)]
  · rw [if_neg hparity, if_pos (by omega), neg_neg]

/-- The candidate for a root of the ratio. -/
def rootCandidate (u v : Field) : Field :=
  u * v * v * v * pow (u * v * v * v * v * v * v * v) ((modulus - 5) / 8)

/-- The ratio has a root if the candidate is one, or is one after a factor that squares to minus
one. -/
theorem sqrtRatio?_eq (u v : Field) :
    sqrtRatio? u v =
      if v * rootCandidate u v * rootCandidate u v = u then some (evenRoot (rootCandidate u v))
      else if v * rootCandidate u v * rootCandidate u v = -u then
        some (evenRoot (rootCandidate u v * sqrtMinusOne))
      else none := rfl

/-- The candidate is a root up to a power that is one or minus one. -/
theorem residue_rootCandidate {u v x : Field} (h : u = v * x * x) :
    residue (v * rootCandidate u v * rootCandidate u v)
      = residue u * (residue v ^ 4 * residue x) ^ (modulus / 2) := by
  have hu : residue u = residue v * residue x * residue x := by
    rw [h, residue_mul, residue_mul]
  have hbase : residue (u * v * v * v * v * v * v * v) = (residue v ^ 4 * residue x) ^ 2 := by
    simp only [residue_mul, hu]
    ring
  -- The modulus is 5 modulo 8, so the exponents of the candidate and of Euler's criterion
  -- differ by a square.
  have hexponent : modulus / 2 = 4 * ((modulus - 5) / 8) + 2 := by decide
  have hcandidate : residue (rootCandidate u v)
      = residue u * residue v ^ 3
        * (residue v ^ 4 * residue x) ^ (2 * ((modulus - 5) / 8)) := by
    unfold rootCandidate
    rw [residue_mul, residue_pow _ (by decide), hbase, ← pow_mul]
    simp only [residue_mul]
    ring
  rw [residue_mul, residue_mul, hcandidate, hexponent]
  -- Only the form of the exponents matters from here on.
  generalize (modulus - 5) / 8 = e
  rw [hu]
  ring

/-- The ratio of a square has a root, and the even one is found. -/
theorem sqrtRatio?_of_square {u v x : Field} (hv : v ≠ 0) (h : u = v * x * x) :
    sqrtRatio? u v = some (evenRoot x) := by
  have hcandidate := residue_rootCandidate h
  -- By Euler, the power in `residue_rootCandidate` is one or minus one.
  have hsign : v * rootCandidate u v * rootCandidate u v = u
      ∨ v * rootCandidate u v * rootCandidate u v = -u := by
    by_cases hx : x = 0
    · have hu : residue u = 0 := by
        rw [h, hx, residue_mul, residue_zero, mul_zero]
      rw [hu, zero_mul, ← hu] at hcandidate
      exact .inl (residue_injective hcandidate)
    · have hne : residue v ^ 4 * residue x ≠ 0 :=
        mul_ne_zero (pow_ne_zero 4 (residue_eq_zero.not.mpr hv)) (residue_eq_zero.not.mpr hx)
      rcases ZMod.pow_div_two_eq_neg_one_or_one modulus hne with hone | hminus
      · rw [hone, mul_one] at hcandidate
        exact .inl (residue_injective hcandidate)
      · rw [hminus, mul_neg_one, ← residue_neg] at hcandidate
        exact .inr (residue_injective hcandidate)
  -- Whichever root is found, the even one of the pair is that of `x`.
  have hfound : ∀ r, v * r * r = u → evenRoot r = evenRoot x := by
    intro r hr
    refine eq_evenRoot hv ?_ (evenRoot_even r)
    rw [evenRoot_mul_self, hr, h]
  rw [sqrtRatio?_eq]
  by_cases hroot : v * rootCandidate u v * rootCandidate u v = u
  · rw [if_pos hroot, hfound _ hroot]
  · have hminus := hsign.resolve_left hroot
    -- The candidate is a root of `-u`; the root of minus one turns it.
    have hturned : v * (rootCandidate u v * sqrtMinusOne)
        * (rootCandidate u v * sqrtMinusOne) = u := by
      apply residue_injective
      have hresidue := congrArg residue hminus
      simp only [residue_mul, residue_neg] at hresidue ⊢
      linear_combination residue v * residue (rootCandidate u v) * residue (rootCandidate u v)
        * residue_sqrtMinusOne - hresidue
    rw [if_neg hroot, if_pos hminus, hfound _ hturned]

end Field

end Custody.Crypto.Ed25519
