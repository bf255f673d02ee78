import Custody.Crypto.Ed25519.Field
import Custody.Proofs.Phrase.Bits

/-!
# `Custody.Proofs.Crypto.Ed25519.Bits`: doubling and adding

Powers of field elements and multiples of points go through the bits of a number, highest
first, and double at every bit. `foldl_bits` is the one induction behind them.
-/

set_option autoImplicit false

namespace Custody.Crypto.Ed25519

open Phrase (bitsOf ofBits)

/-- The bits of an exponent are the lowest 256 bits of the number. -/
theorem bits_eq (n : Nat) : bits n = bitsOf 256 n := rfl

/-- What is doubled at every bit, and gets one more where the bit is set, goes along with the
number that the bits spell. -/
theorem foldl_ofBits {α : Type} {step : α → Bool → α} {start : α} {P : Nat → α → Prop}
    (hstart : P 0 start)
    (hstep : ∀ n a bit, P n a → P (2 * n + bit.toNat) (step a bit)) (bits : List Bool) :
    P (ofBits bits) (bits.foldl step start) := by
  -- Generalised over the start: the number so far and the value so far go on together.
  have hall : ∀ n a, P n a →
      P (bits.foldl (fun n bit => 2 * n + bit.toNat) n) (bits.foldl step a) := by
    induction bits with
    | nil => exact fun _ _ h => h
    | cons bit rest ih => exact fun n a h => ih _ _ (hstep n a bit h)
  exact hall 0 start hstart

/-- In the end the number is reached, if it has no more than 256 bits. -/
theorem foldl_bits {α : Type} {step : α → Bool → α} {start : α} {P : Nat → α → Prop}
    (hstart : P 0 start)
    (hstep : ∀ n a bit, P n a → P (2 * n + bit.toNat) (step a bit)) {n : Nat}
    (hn : n >>> 256 = 0) : P n ((bits n).foldl step start) := by
  have hend := foldl_ofBits hstart hstep (bits n)
  rwa [bits_eq, Phrase.ofBits_bitsOf hn] at hend

end Custody.Crypto.Ed25519
