/-!
# `Custody.Crypto.Ed25519.Field`: the field of 2 ^ 255 - 19 elements

Coordinates of curve points. Elements are residues (`Fin modulus`), so addition and
multiplication are those of core; added here are powers, inverses and square roots.
-/

set_option autoImplicit false

namespace Custody.Crypto.Ed25519

/-- The bits of a number below 2 ^ 256, highest first. -/
def bits (n : Nat) : List Bool := (List.range 256).reverse.map n.testBit

namespace Field

/-- The prime 2 ^ 255 - 19. -/
def modulus : Nat := 57896044618658097711785492504343953926634992332820282019728792003956564819949

/-- There are elements, so the modulus is not zero. -/
instance : @NeZero Nat Zero.ofOfNat0 modulus := ⟨by decide⟩

end Field

/-- A field element. -/
abbrev Field := Fin Field.modulus

namespace Field

/-- `a ^ n` for exponents below 2 ^ 256, by squaring. -/
def pow (a : Field) (n : Nat) : Field :=
  (bits n).foldl (fun r bit => if bit then r * r * a else r * r) 1

/-- The inverse, and zero for zero. -/
def inverse (a : Field) : Field := pow a (modulus - 2)

/-- A square root of minus one. -/
def sqrtMinusOne : Field := pow 2 ((modulus - 1) / 4)

/-- A square root of `u / v`, if there is one: the even one of the two. -/
def sqrtRatio? (u v : Field) : Option Field :=
  let r := u * v * v * v * pow (u * v * v * v * v * v * v * v) ((modulus - 5) / 8)
  let even (r : Field) : Field := if r.val % 2 = 0 then r else -r
  -- A root of `-u` is turned into one of `u` by a root of minus one.
  if v * r * r = u then some (even r)
  else if v * r * r = -u then some (even (r * sqrtMinusOne))
  else none

end Field

end Custody.Crypto.Ed25519
