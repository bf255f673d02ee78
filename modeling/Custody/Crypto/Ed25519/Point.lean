import Custody.Bytes
import Custody.Crypto.Ed25519.Field

/-!
# `Custody.Crypto.Ed25519.Point`: the points of the curve

The curve is -x² + y² = 1 + d x² y². A point is kept as X, Y, Z, T with x = X/Z, y = Y/Z and
x y = T/Z, so that adding needs no division (RFC 8032, section 5.1.4). In 32 bytes a point is
its y coordinate, lowest byte first, with the parity of x in the highest bit.
-/

set_option autoImplicit false

namespace Custody.Crypto.Ed25519

/-- A point in extended coordinates. -/
structure Point where
  x : Field
  y : Field
  z : Field
  t : Field

namespace Point

/-- The coefficient -121665 / 121666 of the curve. -/
def d : Field := -121665 * Field.inverse 121666

/-- The neutral point. -/
def zero : Point := ⟨0, 1, 1, 0⟩

/-- The mirror image of a point. -/
def neg (p : Point) : Point := ⟨-p.x, p.y, p.z, -p.t⟩

/-- The sum of two points. -/
def add (p q : Point) : Point :=
  let a := (p.y - p.x) * (q.y - q.x)
  let b := (p.y + p.x) * (q.y + q.x)
  -- Doubled throughout, so that no half is needed.
  let c := p.t * (d + d) * q.t
  let e := (p.z + p.z) * q.z
  ⟨(b - a) * (e - c), (e + c) * (b + a), (e - c) * (e + c), (b - a) * (b + a)⟩

/-- The sum of a point with itself. -/
def double (p : Point) : Point :=
  let a := p.x * p.x
  let b := p.y * p.y
  let c := (p.z + p.z) * p.z
  let h := a + b
  let e := h - (p.x + p.y) * (p.x + p.y)
  let g := a - b
  let f := c + g
  ⟨e * f, g * h, f * g, e * h⟩

/-- The sum of `n` times the point, by doubling. -/
def mul (n : Nat) (p : Point) : Point :=
  (bits n).foldl (fun q bit => if bit then q.double.add p else q.double) zero

/-- The 32 bytes of a point. -/
def encode (p : Point) : Block 32 :=
  let w := Field.inverse p.z
  let x := p.x * w
  let y := p.y * w
  Bytes.toBlock 32 (Bytes.ofNatLE 32 (y.val + (x.val % 2) <<< 255))

/-- The point that 32 bytes stand for, if there is one with this y. A y that is not reduced is
taken modulo the prime, and a parity bit that asks for a negative zero is let pass. -/
def decode? (bytes : Block 32) : Option Point :=
  let n := bytes.bytes.toNatLE
  let y : Field := Fin.ofNat Field.modulus (n % (1 <<< 255))
  (Field.sqrtRatio? (y * y - 1) (d * y * y + 1)).map fun x =>
    let x := if n.testBit 255 then -x else x
    ⟨x, y, 1, x * y⟩

/-- The point with y = 4 / 5 and even x, which generates the group of signatures. -/
def base : Point :=
  let y := 4 * Field.inverse 5
  let x := (Field.sqrtRatio? (y * y - 1) (d * y * y + 1)).getD 0
  ⟨x, y, 1, x * y⟩

end Point

end Custody.Crypto.Ed25519
