import Custody.Phrase

/-!
# `Custody.Proofs.Phrase.Bits`: numbers, bytes and groups as bits

A number and its bits give each other (`bitsOf_ofBits`, `ofBits_bitsOf`), and so do bits and
their groups (`flatMap_bitsOf_groups`), and bytes and their bits (`bytesOfBits_bitsOfBytes`).
-/

set_option autoImplicit false

namespace Custody.Phrase

/-! ### Bits -/

/-- The last bit is the lowest. -/
theorem bitsOf_succ (width n : Nat) :
    bitsOf (width + 1) n = bitsOf width (n / 2) ++ [n.testBit 0] := by
  unfold bitsOf
  rw [List.range_succ_eq_map, List.reverse_cons, List.map_append, ← List.map_reverse,
    List.map_map]
  congr 1
  apply List.map_congr_left
  intro i _
  exact Nat.testBit_succ n i

/-- There are as many bits as were asked for. -/
@[simp] theorem length_bitsOf (width n : Nat) : (bitsOf width n).length = width := by
  simp [bitsOf]

/-- One more bit doubles the number and is added. -/
theorem ofBits_append (bits : List Bool) (bit : Bool) :
    ofBits (bits ++ [bit]) = 2 * ofBits bits + bit.toNat := by
  rw [ofBits, List.foldl_append]
  rfl

/-- Doubling a number and adding a bit is undone by halving. -/
theorem two_mul_add_bit_div (n : Nat) (bit : Bool) : (2 * n + bit.toNat) / 2 = n := by
  have hbit := bit.toNat_le
  omega

/-- A bit that is added to a doubled number is its lowest. -/
theorem two_mul_add_bit_testBit (n : Nat) (bit : Bool) : (2 * n + bit.toNat).testBit 0 = bit := by
  rw [Nat.testBit_zero]
  cases bit with
  | false => simp
  | true => simp

/-- Bits that are not empty end with one. -/
theorem exists_eq_append_bit {width : Nat} {bits : List Bool} (h : bits.length = width + 1) :
    ∃ (init : List Bool) (bit : Bool), bits = init ++ [bit] ∧ init.length = width := by
  have hne : bits ≠ [] := by
    intro heq
    rw [heq] at h
    cases h
  refine ⟨bits.dropLast, bits.getLast hne, (List.dropLast_concat_getLast hne).symm, ?_⟩
  rw [List.length_dropLast, h]
  rfl

/-- Bits that spell a number are its bits. -/
theorem bitsOf_ofBits {width : Nat} {bits : List Bool} (h : bits.length = width) :
    bitsOf width (ofBits bits) = bits := by
  induction width generalizing bits with
  | zero => rw [List.eq_nil_of_length_eq_zero h]; rfl
  | succ width ih =>
      obtain ⟨init, bit, rfl, hinit⟩ := exists_eq_append_bit h
      -- Both definitions put the lowest bit last, so the induction takes bits off that
      -- end.
      rw [ofBits_append, bitsOf_succ, two_mul_add_bit_div, two_mul_add_bit_testBit, ih hinit]

/-- A number that its bits spell, where it has no more of them. -/
theorem ofBits_bitsOf {width n : Nat} (h : n >>> width = 0) : ofBits (bitsOf width n) = n := by
  induction width generalizing n with
  | zero =>
      rw [Nat.shiftRight_zero] at h
      rw [h]
      rfl
  | succ width ih =>
      rw [Nat.shiftRight_succ_inside] at h
      rw [bitsOf_succ, ofBits_append, ih h, Nat.testBit_zero]
      by_cases hodd : n % 2 = 1 <;> simp [hodd] <;> omega

/-- Bits spell a number that has no more of them. -/
theorem ofBits_shiftRight {width : Nat} {bits : List Bool} (h : bits.length = width) :
    ofBits bits >>> width = 0 := by
  induction width generalizing bits with
  | zero => rw [List.eq_nil_of_length_eq_zero h]; rfl
  | succ width ih =>
      obtain ⟨init, bit, rfl, hinit⟩ := exists_eq_append_bit h
      rw [ofBits_append, Nat.shiftRight_succ_inside, two_mul_add_bit_div, ih hinit]

/-! ### Groups of bits -/

/-- There are as many groups as were asked for. -/
@[simp] theorem length_groups (width count : Nat) (bits : List Bool) :
    (groups width count bits).length = count := by
  induction count generalizing bits with
  | zero => rfl
  | succ count ih => rw [groups, List.length_cons, ih]

/-- Every group has its width. -/
theorem length_of_mem_groups {width count : Nat} {bits group : List Bool}
    (h : bits.length = width * count) (hgroup : group ∈ groups width count bits) :
    group.length = width := by
  induction count generalizing bits with
  | zero => cases hgroup
  | succ count ih =>
      rw [Nat.mul_succ] at h
      rw [groups] at hgroup
      cases List.mem_cons.mp hgroup with
      | inl heq => rw [heq, List.length_take]; omega
      | inr hmem => exact ih (by rw [List.length_drop]; omega) hmem

/-- The groups make up the bits. -/
theorem flatten_groups {width count : Nat} {bits : List Bool} (h : bits.length = width * count) :
    (groups width count bits).flatten = bits := by
  induction count generalizing bits with
  | zero => rw [Nat.mul_zero] at h; rw [List.eq_nil_of_length_eq_zero h]; rfl
  | succ count ih =>
      rw [Nat.mul_succ] at h
      rw [groups, List.flatten_cons, ih (by rw [List.length_drop]; omega), List.take_append_drop]

/-- The numbers that the groups spell have the bits. -/
theorem flatMap_bitsOf_groups {width count : Nat} {bits : List Bool}
    (h : bits.length = width * count) :
    ((groups width count bits).map ofBits).flatMap (bitsOf width) = bits := by
  -- Group by group, the bits of the number are the group.
  have hmap : (groups width count bits).map (fun group => bitsOf width (ofBits group))
      = (groups width count bits).map id := by
    apply List.map_congr_left
    intro group hgroup
    exact bitsOf_ofBits (length_of_mem_groups h hgroup)
  rw [List.flatMap_map]
  show ((groups width count bits).map fun group => bitsOf width (ofBits group)).flatten = bits
  rw [hmap, List.map_id, flatten_groups h]

/-- A byte has eight bits. -/
@[simp] theorem length_bitsOfBytes (bytes : Bytes) :
    (bitsOfBytes bytes).length = 8 * bytes.length := by
  induction bytes with
  | nil => rfl
  | cons b rest ih =>
      rw [bitsOfBytes, List.flatMap_cons, List.length_append, length_bitsOf]
      show 8 + (bitsOfBytes rest).length = _
      rw [ih, List.length_cons, Nat.mul_succ, Nat.add_comm]

/-- Bytes come back from their bits. -/
theorem bytesOfBits_bitsOfBytes (bytes : Bytes) : bytesOfBits (bitsOfBytes bytes) = bytes := by
  rw [bytesOfBits, length_bitsOfBytes, Nat.mul_div_cancel_left _ (by decide)]
  induction bytes with
  | nil => rfl
  | cons b rest ih =>
      have hbits : bitsOfBytes (b :: rest) = bitsOf 8 b.toNat ++ bitsOfBytes rest := rfl
      have hbyte : b.toNat >>> 8 = 0 := by
        rw [Nat.shiftRight_eq_div_pow]
        exact Nat.div_eq_of_lt b.toNat_lt
      rw [hbits, List.length_cons, groups, List.take_left' (length_bitsOf _ _),
        List.drop_left' (length_bitsOf _ _), List.map_cons, ih, ofBits_bitsOf hbyte,
        UInt8.ofNat_toNat]

end Custody.Phrase
