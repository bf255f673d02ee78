import Custody.Proofs.Crypto.Ed25519.Bits
import Mathlib.Data.List.Prime
import Mathlib.NumberTheory.LucasPrimality
import Mathlib.Tactic.NormNum.Prime

/-!
# `Custody.Proofs.Crypto.Ed25519.Prime`: the modulus is a prime

Lucas's test: `p` is a prime if some `a` has order `p - 1` modulo `p`. To see the order, the
prime factors of `p - 1` have to be known to be primes, which is the same question for smaller
numbers (`prime_of_lucas`). A chain of certificates answers it from small primes on
(`prime_of_passAll`), and the one whose last number is the modulus is `modulusChain`.
-/

set_option autoImplicit false

namespace Custody.Crypto.Ed25519

/-- The power modulo `m`, by squaring. -/
def powMod (m a n : ℕ) : ℕ :=
  (bits n).foldl (fun r bit => if bit then r * r % m * a % m else r * r % m) (1 % m)

/-- Squaring and multiplying gives the power, reduced by the modulus. -/
theorem powMod_eq (m a : ℕ) {n : ℕ} (hn : n >>> 256 = 0) : powMod m a n = a ^ n % m := by
  refine foldl_bits (P := fun n r => r = a ^ n % m) ?_ ?_ hn
  · rw [pow_zero]
  · rintro n r bit rfl
    have hsquare : a ^ n % m * (a ^ n % m) % m = a ^ (2 * n) % m := by
      rw [← Nat.mul_mod, ← pow_add, two_mul]
    cases bit with
    | false => simpa using hsquare
    | true =>
        simp only [if_true, Bool.toNat_true]
        rw [hsquare, Nat.mod_mul_mod, ← pow_succ]

/-- The test: the factors make up `p - 1`, and `a` has order `p - 1`. -/
def lucas (p a : ℕ) (factors : List ℕ) : Bool :=
  factors.prod == p - 1 && powMod p a (p - 1) == 1
    && factors.all fun q => powMod p a ((p - 1) / q) != 1

/-- A number that passes the test is a prime, if its factors are. -/
theorem prime_of_lucas {p : ℕ} (a : ℕ) (factors : List ℕ) (hp : 1 < p) (hbits : p >>> 256 = 0)
    (hprimes : ∀ q ∈ factors, q.Prime) (h : lucas p a factors = true) : p.Prime := by
  simp only [lucas, Bool.and_eq_true, beq_iff_eq, List.all_eq_true, bne_iff_ne] at h
  obtain ⟨⟨hprod, hfull⟩, hparts⟩ := h
  have hlt : ∀ n ≤ p - 1, n >>> 256 = 0 := by
    intro n hn
    rw [Nat.shiftRight_eq_div_pow] at hbits ⊢
    have hbound := Nat.lt_of_div_eq_zero (by positivity) hbits
    exact Nat.div_eq_of_lt (by omega)
  have hpow : ∀ n ≤ p - 1, (a : ZMod p) ^ n = 1 ↔ powMod p a n = 1 := by
    intro n hn
    rw [powMod_eq p a (hlt n hn), ← Nat.cast_pow, ← Nat.cast_one, ZMod.natCast_eq_natCast_iff',
      Nat.one_mod_eq_one.mpr (by omega)]
  refine lucas_primality p a ((hpow _ le_rfl).mpr hfull) ?_
  intro q hq hdvd
  rw [← hprod] at hdvd
  have hmem := mem_list_primes_of_dvd_prod hq.prime (fun r hr => (hprimes r hr).prime) hdvd
  rw [ne_eq, hpow _ (Nat.div_le_self _ _)]
  exact hparts q hmem

/-! ### Chains of certificates -/

/-- A number, and what the test needs to know to see that it is a prime. -/
structure Certificate where
  number : ℕ
  root : ℕ
  factors : List ℕ

/-- The number passes the test, and its factors are among those known to be primes. -/
def Certificate.passes (known : List ℕ) (c : Certificate) : Bool :=
  decide (1 < c.number) && c.number >>> 256 == 0 && c.factors.all known.contains
    && lucas c.number c.root c.factors

/-- Each certificate passes once the numbers before it are known to be primes. -/
def passAll (known : List ℕ) : List Certificate → Bool
  | [] => true
  | c :: rest => c.passes known && passAll (c.number :: known) rest

/-- A certificate that passes, from factors that are prime, is that of a prime. -/
theorem Certificate.prime_of_passes {known : List ℕ} {c : Certificate}
    (hknown : ∀ q ∈ known, q.Prime) (h : c.passes known = true) : c.number.Prime := by
  simp only [passes, Bool.and_eq_true, decide_eq_true_eq, beq_iff_eq, List.all_eq_true,
    List.contains_iff_mem] at h
  obtain ⟨⟨⟨hone, hbits⟩, hfactors⟩, hlucas⟩ := h
  exact prime_of_lucas c.root c.factors hone hbits (fun q hq => hknown q (hfactors q hq)) hlucas

/-- A chain that passes certifies primes only. By induction on the chain: each link adds its number
to the known primes. -/
theorem prime_of_passAll {known : List ℕ} {chain : List Certificate}
    (hknown : ∀ q ∈ known, q.Prime) (h : passAll known chain = true) :
    ∀ p ∈ chain.map Certificate.number, p.Prime := by
  induction chain generalizing known with
  | nil => exact List.forall_mem_nil _
  | cons c rest ih =>
      rw [passAll, Bool.and_eq_true] at h
      obtain ⟨hpasses, hrest⟩ := h
      have hprime := c.prime_of_passes hknown hpasses
      rw [List.map_cons, List.forall_mem_cons]
      exact ⟨hprime, ih (List.forall_mem_cons.mpr ⟨hprime, hknown⟩) hrest⟩

/-! ### The chain up to the modulus -/

/-- The small primes that the chain starts from. -/
def smallPrimes : List ℕ :=
  [2, 3, 5, 7, 13, 19, 31, 43, 47, 103, 107, 127, 223, 353, 991, 2437, 3727, 4153, 57467, 65147,
    75707, 132049, 430751, 569003]

/-- They are prime. -/
theorem prime_of_mem_smallPrimes : ∀ q ∈ smallPrimes, q.Prime := by
  unfold smallPrimes
  norm_num

/-- Every factor is small or stands further up. -/
def modulusChain : List Certificate :=
  [⟨1923133, 2, [2, 2, 3, 43, 3727]⟩,
    ⟨31757755568855353, 10, [2, 2, 2, 3, 31, 107, 223, 4153, 430751]⟩,
    ⟨2773320623, 5, [2, 2437, 569003]⟩,
    ⟨72106336199, 7, [2, 13, 2773320623]⟩,
    ⟨8574133, 2, [2, 2, 3, 7, 103, 991]⟩,
    ⟨1919519569386763, 2, [2, 3, 7, 19, 47, 47, 127, 8574133]⟩,
    ⟨75445702479781427272750846543864801, 7,
      [2, 2, 2, 2, 2, 3, 3, 5, 5, 75707, 72106336199, 1919519569386763]⟩,
    ⟨74058212732561358302231226437062788676166966415465897661863160754340907, 2,
      [2, 3, 353, 57467, 132049, 1923133, 31757755568855353,
        75445702479781427272750846543864801]⟩,
    ⟨Field.modulus, 2,
      [2, 2, 3, 65147, 74058212732561358302231226437062788676166966415465897661863160754340907]⟩]

/-- The chain to the modulus passes. -/
theorem modulusChain_passes : passAll smallPrimes modulusChain = true := by decide +kernel

/-- The modulus is a prime. -/
theorem prime_modulus : Nat.Prime Field.modulus := by
  refine prime_of_passAll prime_of_mem_smallPrimes modulusChain_passes Field.modulus ?_
  simp [modulusChain]

end Custody.Crypto.Ed25519
