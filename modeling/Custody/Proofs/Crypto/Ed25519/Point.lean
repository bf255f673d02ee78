import Custody.Proofs.Bytes
import Custody.Proofs.Crypto.Ed25519.Field

/-!
# `Custody.Proofs.Crypto.Ed25519.Point`: extended coordinates stand for points

`Represents p P`: the coordinates `p` are those of the point `P` of the curve, whatever the
common denominator. Adding, doubling and taking multiples of coordinates adds points and takes
multiples of them (`Represents.add`, `Represents.double`, `Represents.mul`), the bytes of
coordinates depend on the point only (`Represents.encode_eq`), and the point is read back from
them (`Represents.decode?_encode`).
-/

set_option autoImplicit false

open Custody.Crypto.Ed25519.Field (modulus residue residue_injective)

namespace Custody.Crypto.Ed25519

open Edwards (Affine Complete)
open Edwards.Affine (numX numY cross)

/-- The coefficient of the curve as a residue. -/
def coefficient : ZMod modulus := residue Point.d

/-- The modulus is odd. -/
theorem two_ne_zero : (2 : ZMod modulus) ≠ 0 := by
  intro h
  have hdvd := (ZMod.natCast_eq_zero_iff 2 modulus).mp (by exact_mod_cast h)
  exact absurd (Nat.le_of_dvd (by decide) hdvd) (by decide)

/-- By the criterion of Euler, the coefficient of the curve is no square. -/
theorem pow_coefficient : coefficient ^ (modulus / 2) = -1 := by
  have hpow : Field.pow Point.d (modulus / 2) = -1 := by decide +kernel
  unfold coefficient
  rw [← Field.residue_pow _ (by decide), hpow, Field.residue_neg, Field.residue_one]

/-- One and minus one differ. -/
theorem one_ne_neg_one : (1 : ZMod modulus) ≠ -1 := by
  intro h
  exact two_ne_zero (by linear_combination h)

/-- The coefficient is no square, by Euler's criterion. -/
theorem not_isSquare_coefficient : ¬ IsSquare coefficient := by
  have hne : coefficient ≠ 0 := by
    intro hzero
    have hpow := pow_coefficient
    rw [hzero, zero_pow (by decide)] at hpow
    exact one_ne_zero (neg_eq_zero.mp hpow.symm)
  rw [ZMod.euler_criterion modulus hne, pow_coefficient]
  exact one_ne_neg_one.symm

/-- The curve is complete, as its coefficient is no square. -/
instance : Complete coefficient where
  two_ne_zero := two_ne_zero
  exists_root := ⟨_, Field.residue_sqrtMinusOne⟩
  eq_zero_of_square r s h := by
    by_contra hs
    refine not_isSquare_coefficient ⟨r / s, ?_⟩
    rw [div_mul_div_comm, h, mul_div_cancel_right₀ _ (mul_ne_zero hs hs)]

/-- The coordinates are those of the point, over a common denominator. -/
structure Represents (p : Point) (P : Affine coefficient) : Prop where
  z_ne_zero : residue p.z ≠ 0
  x_eq : residue p.x = P.x * residue p.z
  y_eq : residue p.y = P.y * residue p.z
  t_eq : residue p.t = P.x * P.y * residue p.z

namespace Represents

variable {p q : Point} {P Q : Affine coefficient}

/-- Coordinates of this form come out of additions and doublings. -/
theorem of_factors {e f g h : Field} (hf : residue f ≠ 0) (hg : residue g ≠ 0)
    (he : residue e = P.x * residue g) (hh : residue h = P.y * residue f) :
    Represents ⟨e * f, g * h, f * g, e * h⟩ P where
  z_ne_zero := by
    simp only [Field.residue_mul]
    exact mul_ne_zero hf hg
  x_eq := by
    simp only [Field.residue_mul]
    linear_combination residue f * he
  y_eq := by
    simp only [Field.residue_mul]
    linear_combination residue g * hh
  t_eq := by
    simp only [Field.residue_mul, he, hh]
    ring

/-- The neutral point stands for the neutral point of the curve. -/
theorem zero : Represents Point.zero 0 where
  z_ne_zero := by simp [Point.zero]
  x_eq := by simp [Point.zero, Affine.zero_x]
  y_eq := by simp [Point.zero, Affine.zero_y]
  t_eq := by simp [Point.zero, Affine.zero_x]

/-- Two coordinates and their product stand for the point with these coordinates. -/
theorem of_affine {x y : Field} (hx : residue x = P.x) (hy : residue y = P.y) :
    Represents ⟨x, y, 1, x * y⟩ P where
  z_ne_zero := by
    rw [Field.residue_one]
    exact one_ne_zero
  x_eq := by rw [Field.residue_one, mul_one, hx]
  y_eq := by rw [Field.residue_one, mul_one, hy]
  t_eq := by rw [Field.residue_one, mul_one, Field.residue_mul, hx, hy]

/-- The mirror image stands for the mirror image. -/
theorem neg (hp : Represents p P) : Represents p.neg (-P) where
  z_ne_zero := hp.z_ne_zero
  x_eq := by
    simp only [Point.neg, Field.residue_neg, hp.x_eq, Affine.neg_x]
    ring
  y_eq := hp.y_eq
  t_eq := by
    simp only [Point.neg, Field.residue_neg, hp.t_eq, Affine.neg_x, Affine.neg_y]
    ring

/-- The two denominators are `2 z z' (1 ± cross)`. -/
theorem add (hp : Represents p P) (hq : Represents q Q) : Represents (p.add q) (P + Q) := by
  have hscale : 2 * (residue p.z * residue q.z) ≠ 0 :=
    mul_ne_zero two_ne_zero (mul_ne_zero hp.z_ne_zero hq.z_ne_zero)
  have hminus : residue ((p.z + p.z) * q.z - p.t * (Point.d + Point.d) * q.t)
      = 2 * (residue p.z * residue q.z) * (1 - cross P Q) := by
    simp only [Field.residue_mul, Field.residue_add, Field.residue_sub, hp.t_eq, hq.t_eq, cross,
      coefficient]
    ring
  have hplus : residue ((p.z + p.z) * q.z + p.t * (Point.d + Point.d) * q.t)
      = 2 * (residue p.z * residue q.z) * (1 + cross P Q) := by
    simp only [Field.residue_mul, Field.residue_add, hp.t_eq, hq.t_eq, cross, coefficient]
    ring
  -- The factors `f` and `g` are scaled denominators of the addition law, which are not
  -- zero, and `e` and `h` its numerators.
  refine of_factors ?_ ?_ ?_ ?_
  · rw [hminus]
    exact mul_ne_zero hscale (Affine.one_sub_cross_ne_zero P Q)
  · rw [hplus]
    exact mul_ne_zero hscale (Affine.one_add_cross_ne_zero P Q)
  · rw [hplus, mul_left_comm, Affine.add_x_mul]
    simp only [Field.residue_mul, Field.residue_add, Field.residue_sub, hp.x_eq, hq.x_eq,
      hp.y_eq, hq.y_eq, numX]
    ring
  · rw [hminus, mul_left_comm, Affine.add_y_mul]
    simp only [Field.residue_mul, Field.residue_add, Field.residue_sub, hp.x_eq, hq.x_eq,
      hp.y_eq, hq.y_eq, numY]
    ring

/-- The two denominators are `- z² (1 + cross)` and `z² (1 - cross)`. -/
theorem double (hp : Represents p P) : Represents p.double (P + P) := by
  have hscale : residue p.z * residue p.z ≠ 0 := mul_ne_zero hp.z_ne_zero hp.z_ne_zero
  have hcurve := P.on_curve
  have hplus : residue (p.x * p.x - p.y * p.y)
      = -(residue p.z * residue p.z) * (1 + cross P P) := by
    simp only [Field.residue_mul, Field.residue_sub, hp.x_eq, hp.y_eq, cross]
    -- The formula does without `d`: the curve gives `x² - y²` its value.
    linear_combination -(residue p.z * residue p.z) * hcurve
  have hminus : residue ((p.z + p.z) * p.z + (p.x * p.x - p.y * p.y))
      = residue p.z * residue p.z * (1 - cross P P) := by
    rw [Field.residue_add, hplus]
    simp only [Field.residue_mul, Field.residue_add]
    ring
  refine of_factors ?_ ?_ ?_ ?_
  · rw [hminus]
    exact mul_ne_zero hscale (Affine.one_sub_cross_ne_zero P P)
  · rw [hplus]
    exact mul_ne_zero (neg_ne_zero.mpr hscale) (Affine.one_add_cross_ne_zero P P)
  · rw [hplus, mul_left_comm, Affine.add_x_mul]
    simp only [Field.residue_mul, Field.residue_add, Field.residue_sub, hp.x_eq, hp.y_eq, numX]
    ring
  · rw [hminus, mul_left_comm, Affine.add_y_mul]
    simp only [Field.residue_mul, Field.residue_add, hp.x_eq, hp.y_eq, numY]
    ring

/-- A multiple by a number of at most 256 bits stands for the multiple. -/
theorem mul (hp : Represents p P) {n : ℕ} (hn : n >>> 256 = 0) :
    Represents (p.mul n) (n • P) := by
  refine foldl_bits (P := fun n q => Represents q (n • P)) ?_ ?_ hn
  · rw [zero_nsmul]
    exact zero
  · intro n q bit hq
    have hdouble : Represents q.double ((2 * n) • P) := by
      rw [two_mul, add_nsmul]
      exact hq.double
    cases bit with
    | false => exact hdouble
    | true =>
        rw [Bool.toNat_true, succ_nsmul]
        exact hdouble.add hp

/-! ### Points as bytes -/

/-- The first coordinate is found by a division. -/
theorem x_div_z (hp : Represents p P) : residue (p.x * Field.inverse p.z) = P.x := by
  rw [Field.residue_mul, Field.residue_inverse, hp.x_eq, mul_assoc,
    mul_inv_cancel₀ hp.z_ne_zero, mul_one]

/-- The second coordinate is found by a division. -/
theorem y_div_z (hp : Represents p P) : residue (p.y * Field.inverse p.z) = P.y := by
  rw [Field.residue_mul, Field.residue_inverse, hp.y_eq, mul_assoc,
    mul_inv_cancel₀ hp.z_ne_zero, mul_one]

end Represents

/-- The number whose bytes stand for a point with these two coordinates. -/
def encoded (x y : Field) : ℕ := y.val + (x.val % 2) <<< 255

/-- A point is written as the number that its coordinates encode. -/
theorem encode_eq_encoded (p : Point) :
    p.encode = Bytes.toBlock 32
      (Bytes.ofNatLE 32 (encoded (p.x * Field.inverse p.z) (p.y * Field.inverse p.z))) := by
  unfold Point.encode encoded
  rfl

/-- The bytes depend on the point, and not on the denominator. -/
theorem Represents.encode_eq {p q : Point} {P : Affine coefficient} (hp : Represents p P)
    (hq : Represents q P) : p.encode = q.encode := by
  have hx : p.x * Field.inverse p.z = q.x * Field.inverse q.z :=
    residue_injective (hp.x_div_z.trans hq.x_div_z.symm)
  have hy : p.y * Field.inverse p.z = q.y * Field.inverse q.z :=
    residue_injective (hp.y_div_z.trans hq.y_div_z.symm)
  rw [encode_eq_encoded, encode_eq_encoded, hx, hy]

section
variable (x y : Field)

/-- The number that is written is the second coordinate, with the parity of the first as its
highest bit. -/
theorem encoded_eq : encoded x y = y.val + x.val % 2 * 1 <<< 255 := by
  unfold encoded
  generalize x.val % 2 = bit
  rw [Nat.shiftLeft_eq bit, Nat.one_shiftLeft]

/-- The second coordinate leaves the highest bit free. -/
theorem val_lt : y.val < 1 <<< 255 := y.isLt.trans (by decide)

/-- Below the highest bit stands the second coordinate. -/
theorem encoded_mod : encoded x y % (1 <<< 255) = y.val := by
  rw [encoded_eq, Nat.add_mul_mod_self_right, Nat.mod_eq_of_lt (val_lt y)]

/-- The highest bit says whether the first coordinate is odd. -/
theorem encoded_testBit : (encoded x y).testBit 255 = decide (x.val % 2 = 1) := by
  have hpos : 0 < 1 <<< 255 := by decide
  rw [encoded_eq, Nat.testBit_eq_decide_div_mod_eq, ← Nat.one_shiftLeft,
    Nat.add_mul_div_right _ _ hpos, Nat.div_eq_of_lt (val_lt y), Nat.zero_add, Nat.mod_mod]

/-- The number fits into 32 bytes. -/
theorem encoded_shiftRight : encoded x y >>> (8 * 32) = 0 := by
  have hbit : x.val % 2 ≤ 1 := Nat.le_of_lt_succ (Nat.mod_lt _ (by decide))
  have hsize : 1 <<< (8 * 32) = 1 <<< 255 + 1 * 1 <<< 255 := by decide
  rw [encoded_eq, Nat.shiftRight_eq_div_pow, ← Nat.one_shiftLeft, hsize]
  exact Nat.div_eq_of_lt (Nat.add_lt_add_of_lt_of_le (val_lt y) (Nat.mul_le_mul_right _ hbit))

end

/-- On the curve, the denominator of the square of x is not zero. -/
theorem denominator_ne_zero (y : Field) : Point.d * y * y + 1 ≠ 0 := by
  intro h
  have hresidue := congrArg residue h
  simp only [Field.residue_add, Field.residue_mul, Field.residue_one, Field.residue_zero]
    at hresidue
  -- Otherwise minus one, which is a square, would be `d` times a square.
  have hsquare : residue Field.sqrtMinusOne * residue Field.sqrtMinusOne
      = coefficient * (residue y * residue y) := by
    rw [Field.residue_sqrtMinusOne, coefficient]
    linear_combination -hresidue
  rw [Complete.eq_zero_of_square _ _ hsquare, mul_zero, zero_add] at hresidue
  exact one_ne_zero hresidue

/-- Coordinates on the curve are read back from their bytes: the square of x is known, and so
is its parity. -/
theorem decode?_encoded {x y : Field} (h : y * y - 1 = (Point.d * y * y + 1) * x * x) :
    Point.decode? (Bytes.toBlock 32 (Bytes.ofNatLE 32 (encoded x y))) = some ⟨x, y, 1, x * y⟩ := by
  have hnumber : (Bytes.toBlock 32 (Bytes.ofNatLE 32 (encoded x y))).bytes.toNatLE
      = encoded x y := by
    rw [Bytes.bytes_toBlock (Bytes.length_ofNatLE _ _),
      Bytes.toNatLE_ofNatLE (encoded_shiftRight x y)]
  have hy : Fin.ofNat modulus (encoded x y % (1 <<< 255)) = y := by
    rw [encoded_mod]
    exact Fin.ofNat_val_eq_self y
  have hroot := Field.sqrtRatio?_of_square (denominator_ne_zero y) h
  unfold Point.decode?
  simp only [hnumber, hy, encoded_testBit, hroot, Option.map_some, decide_eq_true_eq,
    Field.ite_evenRoot]

/-- A point is read back from the bytes of any coordinates of it. -/
theorem Represents.decode?_encode {p : Point} {P : Affine coefficient} (hp : Represents p P) :
    ∃ q, Point.decode? p.encode = some q ∧ Represents q P := by
  -- The quotients are the coordinates of `P`, so they solve the equation of the curve.
  have hcurve : p.y * Field.inverse p.z * (p.y * Field.inverse p.z) - 1
      = (Point.d * (p.y * Field.inverse p.z) * (p.y * Field.inverse p.z) + 1)
        * (p.x * Field.inverse p.z) * (p.x * Field.inverse p.z) := by
    apply residue_injective
    rw [Field.residue_sub, Field.residue_mul, Field.residue_mul _ (p.x * _),
      Field.residue_mul _ (p.x * _), Field.residue_add, Field.residue_mul _ (p.y * _),
      Field.residue_mul _ (p.y * _), Field.residue_one, hp.x_div_z, hp.y_div_z]
    have hP := P.on_curve
    unfold coefficient at hP
    linear_combination hP
  rw [encode_eq_encoded, decode?_encoded hcurve]
  exact ⟨_, rfl, of_affine hp.x_div_z hp.y_div_z⟩

/-! ### The base point -/

/-- The base point is on the curve. -/
theorem base_on_curve :
    Point.base.y * Point.base.y - Point.base.x * Point.base.x
      = 1 + Point.d * (Point.base.x * Point.base.x) * (Point.base.y * Point.base.y) := by
  decide +kernel

/-- The point that generates the group of signatures. -/
def generator : Affine coefficient where
  x := residue Point.base.x
  y := residue Point.base.y
  on_curve := by
    have hcurve := congrArg residue base_on_curve
    simp only [Field.residue_sub, Field.residue_mul, Field.residue_add, Field.residue_one]
      at hcurve
    exact hcurve

/-- The base point stands for the generator. -/
theorem represents_base : Represents Point.base generator := by
  -- The coordinates are long numerals, which must not be unfolded: only their form
  -- matters.
  have hform : ∃ x y, Point.base = ⟨x, y, 1, x * y⟩ := ⟨_, _, rfl⟩
  obtain ⟨x, y, hbase⟩ := hform
  have hx : residue x = generator.x := by
    show residue x = residue Point.base.x
    rw [hbase]
  have hy : residue y = generator.y := by
    show residue y = residue Point.base.y
    rw [hbase]
  rw [hbase]
  exact .of_affine hx hy

end Custody.Crypto.Ed25519
