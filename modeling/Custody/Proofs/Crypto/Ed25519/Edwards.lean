import Mathlib.Algebra.Field.Basic
import Mathlib.Tactic.FieldSimp
import Mathlib.Tactic.LinearCombination
import Mathlib.Tactic.Ring

/-!
# `Custody.Proofs.Crypto.Ed25519.Edwards`: the group of the curve

The points (x, y) with -x² + y² = 1 + d x² y², over a field in which -1 is a square and `d` is
not one. There the denominators 1 ± d x₁ x₂ y₁ y₂ of the addition law are never zero
(`cross_ne`), so one formula adds any two points, equal, inverse or neutral ones too. With it
the points are a commutative group. The identities between polynomials behind closure and
associativity follow from the equation of the curve at two and at three points.
-/

set_option autoImplicit false

namespace Custody.Crypto.Edwards

/-- A coefficient with which the addition law has no exceptions. -/
class Complete {K : Type} [Field K] (d : K) : Prop where
  two_ne_zero : (2 : K) ≠ 0
  exists_root : ∃ i : K, i * i = -1
  eq_zero_of_square : ∀ r s : K, r * r = d * (s * s) → s = 0

/-- A point of the curve. -/
@[ext]
structure Affine {K : Type} [Field K] (d : K) where
  x : K
  y : K
  on_curve : y * y - x * x = 1 + d * (x * x) * (y * y)

namespace Affine

variable {K : Type} [Field K] {d : K} (P Q R : Affine d)

/-- The numerator of the x coordinate of a sum. -/
def numX : K := P.x * Q.y + P.y * Q.x

/-- The numerator of the y coordinate of a sum. -/
def numY : K := P.y * Q.y + P.x * Q.x

/-- What the denominators of a sum differ from one by. -/
def cross : K := d * (P.x * Q.x) * (P.y * Q.y)

/-- The numerator of the first coordinate of a sum is the same in either order. -/
theorem numX_comm : numX P Q = numX Q P := by
  unfold numX
  ring

/-- The numerator of the second coordinate is the same in either order. -/
theorem numY_comm : numY P Q = numY Q P := by
  unfold numY
  ring

/-- What the denominators differ from one by is the same in either order. -/
theorem cross_comm : cross P Q = cross Q P := by
  unfold cross
  ring

/-- The neutral point. -/
instance : Zero (Affine d) := ⟨⟨0, 1, by ring⟩⟩

/-- The mirror image of a point. -/
instance : Neg (Affine d) := ⟨fun P => ⟨-P.x, P.y, by linear_combination P.on_curve⟩⟩

/-- The first coordinate of the neutral point is zero. -/
theorem zero_x : (0 : Affine d).x = 0 := rfl

/-- The second coordinate of the neutral point is one. -/
theorem zero_y : (0 : Affine d).y = 1 := rfl

/-- The mirror image has the opposite first coordinate. -/
theorem neg_x : (-P).x = -P.x := rfl

/-- The mirror image has the same second coordinate. -/
theorem neg_y : (-P).y = P.y := rfl

section Addition

variable [Complete d]

/-- If the product were 1 or -1, then `d` would be a square. -/
theorem cross_ne {e : K} (he : e * e = 1) : cross P Q ≠ e := by
  intro hcross
  unfold cross at hcross
  obtain ⟨i, hi⟩ := Complete.exists_root (d := d)
  have hP := P.on_curve
  have hQ := Q.on_curve
  -- With `cross P Q = e`, the equations of the two points make `(y₁ ± e i x₁)²` equal
  -- to `d` times a square, for either sign.
  have hplus : (P.y + e * i * P.x) * (P.y + e * i * P.x)
      = d * ((P.x * P.y * (Q.y + i * Q.x)) * (P.x * P.y * (Q.y + i * Q.x))) := by
    grobner
  have hminus : (P.y - e * i * P.x) * (P.y - e * i * P.x)
      = d * ((P.x * P.y * (Q.y - i * Q.x)) * (P.x * P.y * (Q.y - i * Q.x))) := by
    grobner
  have hplus_zero := Complete.eq_zero_of_square _ _ hplus
  have hminus_zero := Complete.eq_zero_of_square _ _ hminus
  -- The two square roots vanish, and so does the sum of `x₁ y₁ (y₂ ± i x₂)`, which is
  -- `2 x₁ y₁ y₂`: a factor of `cross P Q`.
  have htwo : 2 * e = 0 := by
    rw [← hcross]
    linear_combination d * Q.x * (hplus_zero + hminus_zero)
  have hzero : e = 0 := (mul_eq_zero.mp htwo).resolve_left (Complete.two_ne_zero d)
  rw [hzero, mul_zero] at he
  exact zero_ne_one he

/-- On a complete curve, the denominator of the first coordinate is never zero. -/
theorem one_add_cross_ne_zero : 1 + cross P Q ≠ 0 := by
  have hunit : (-1 : K) * -1 = 1 := by ring
  intro h
  exact cross_ne P Q hunit (by linear_combination h)

/-- On a complete curve, the denominator of the second coordinate is never zero. -/
theorem one_sub_cross_ne_zero : 1 - cross P Q ≠ 0 := by
  intro h
  exact cross_ne P Q (one_mul 1) (by linear_combination -h)

/-- The sum of two points is on the curve. One formula does for all points, equal or not. -/
instance : Add (Affine d) where
  add P Q :=
    { x := numX P Q / (1 + cross P Q)
      y := numY P Q / (1 - cross P Q)
      on_curve := by
        have hP := P.on_curve
        have hQ := Q.on_curve
        have hplus := one_add_cross_ne_zero P Q
        have hminus := one_sub_cross_ne_zero P Q
        field_simp
        unfold numX numY cross
        grobner }

/-- The first coordinate of a sum, as a fraction. -/
theorem add_x : (P + Q).x = numX P Q / (1 + cross P Q) := rfl

/-- The second coordinate of a sum, as a fraction. -/
theorem add_y : (P + Q).y = numY P Q / (1 - cross P Q) := rfl

/-- The first coordinate of a sum, without a division. -/
theorem add_x_mul : (P + Q).x * (1 + cross P Q) = numX P Q :=
  div_mul_cancel₀ _ (one_add_cross_ne_zero P Q)

/-- The second coordinate of a sum, without a division. -/
theorem add_y_mul : (P + Q).y * (1 - cross P Q) = numY P Q :=
  div_mul_cancel₀ _ (one_sub_cross_ne_zero P Q)

/-- Points may be added in either order. -/
theorem add_comm' : P + Q = Q + P := by
  ext
  · rw [add_x, add_x, numX_comm, cross_comm]
  · rw [add_y, add_y, numY_comm, cross_comm]

/-- The neutral point adds nothing. -/
theorem zero_add' : 0 + P = P := by
  ext
  · rw [add_x, numX, cross, zero_x, zero_y]
    ring
  · rw [add_y, numY, cross, zero_x, zero_y]
    ring

/-- A point and its mirror image cancel out. -/
theorem neg_add_cancel' : -P + P = 0 := by
  ext
  · rw [add_x, numX, neg_x, neg_y, zero_x]
    ring
  · rw [add_y, div_eq_iff (one_sub_cross_ne_zero _ _), zero_y, numY, cross, neg_x, neg_y]
    linear_combination P.on_curve

/-! ### Sums of three points -/

/-- The product of the denominators of a sum of two. -/
def den : K := (1 + cross P Q) * (1 - cross P Q)

/-- The product of both denominators of a sum is not zero. -/
theorem den_ne_zero : den P Q ≠ 0 :=
  mul_ne_zero (one_add_cross_ne_zero P Q) (one_sub_cross_ne_zero P Q)

/-- A third point is added: the numerator of the first coordinate, cleared of the denominators of
the first two. -/
theorem numX_add :
    numX (P + Q) R * den P Q
      = numX P Q * (1 - cross P Q) * R.y + numY P Q * (1 + cross P Q) * R.x := by
  rw [← add_x_mul P Q, ← add_y_mul P Q, numX, den]
  ring

/-- The numerator of the second coordinate, cleared in the same way. -/
theorem numY_add :
    numY (P + Q) R * den P Q
      = numY P Q * (1 + cross P Q) * R.y + numX P Q * (1 - cross P Q) * R.x := by
  rw [← add_x_mul P Q, ← add_y_mul P Q, numY, den]
  ring

/-- What the denominators differ from one by, cleared in the same way. -/
theorem cross_add :
    cross (P + Q) R * den P Q = d * (numX P Q * R.x) * (numY P Q * R.y) := by
  rw [← add_x_mul P Q, ← add_y_mul P Q, cross, den]
  ring

/-- The denominator of the first coordinate of a sum of three, cleared, is not zero. -/
theorem den_add_ne_zero : den P Q + d * (numX P Q * R.x) * (numY P Q * R.y) ≠ 0 := by
  have hprod := mul_ne_zero (one_add_cross_ne_zero (P + Q) R) (den_ne_zero P Q)
  rwa [add_mul, one_mul, cross_add] at hprod

/-- The denominator of the second coordinate of a sum of three, cleared, is not zero. -/
theorem den_sub_ne_zero : den P Q - d * (numX P Q * R.x) * (numY P Q * R.y) ≠ 0 := by
  have hprod := mul_ne_zero (one_sub_cross_ne_zero (P + Q) R) (den_ne_zero P Q)
  rwa [sub_mul, one_mul, cross_add] at hprod

/-- The first coordinate of a sum of three, in one fraction. -/
theorem add_add_x :
    (P + Q + R).x = (numX P Q * (1 - cross P Q) * R.y + numY P Q * (1 + cross P Q) * R.x)
      / (den P Q + d * (numX P Q * R.x) * (numY P Q * R.y)) := by
  rw [eq_div_iff (den_add_ne_zero P Q R), ← cross_add, ← numX_add P Q R,
    ← add_x_mul (P + Q) R]
  ring

/-- The second coordinate of a sum of three, in one fraction. -/
theorem add_add_y :
    (P + Q + R).y = (numY P Q * (1 + cross P Q) * R.y + numX P Q * (1 - cross P Q) * R.x)
      / (den P Q - d * (numX P Q * R.x) * (numY P Q * R.y)) := by
  rw [eq_div_iff (den_sub_ne_zero P Q R), ← cross_add, ← numY_add P Q R,
    ← add_y_mul (P + Q) R]
  ring

/-- Three points may be added from either end. -/
theorem add_assoc' : P + Q + R = P + (Q + R) := by
  have hP := P.on_curve
  have hQ := Q.on_curve
  have hR := R.on_curve
  -- The right side becomes a sum with `P` last, so that both sides take the closed form
  -- of a sum of three.
  rw [add_comm' P (Q + R)]
  ext
  · rw [add_add_x, add_add_x, div_eq_div_iff (den_add_ne_zero P Q R) (den_add_ne_zero Q R P)]
    -- Cross-multiplied, the two sides differ by a combination of the three equations.
    unfold den numX numY cross
    grobner
  · rw [add_add_y, add_add_y, div_eq_div_iff (den_sub_ne_zero P Q R) (den_sub_ne_zero Q R P)]
    unfold den numX numY cross
    grobner

/-- The points of the curve are a commutative group. -/
instance : AddCommGroup (Affine d) where
  add_assoc P Q R := add_assoc' P Q R
  zero_add P := zero_add' P
  add_zero P := by
    rw [add_comm', zero_add']
  nsmul := nsmulRec
  zsmul := zsmulRec
  neg_add_cancel P := neg_add_cancel' P
  add_comm P Q := add_comm' P Q

end Addition

end Affine

end Custody.Crypto.Edwards
