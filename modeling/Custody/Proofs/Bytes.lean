import Custody.Bytes

/-!
# `Custody.Proofs.Bytes`: blocks and numbers as bytes

Bytes that have the length of a block are kept in it (`bytes_toBlock`), and a number comes back
from its digits if there are enough of them (`toNatLE_ofNatLE`).
-/

set_option autoImplicit false

namespace Custody.Bytes

/-- A block in front of other bytes is read off as it is. -/
theorem toBlock_append {n : Nat} (block : Block n) (rest : Bytes) :
    toBlock n (block.bytes ++ rest) = block := by
  apply Vector.ext
  intro i hi
  have hlt : i < block.bytes.length := by simpa using hi
  rw [toBlock, Vector.getElem_ofFn, List.getD_eq_getElem?_getD, List.getElem?_append_left hlt]
  simp [Block.bytes, hi]

/-- Nothing is padded and nothing is cut where the length is right. -/
theorem bytes_toBlock {n : Nat} {bytes : Bytes} (h : bytes.length = n) :
    (toBlock n bytes).bytes = bytes := by
  -- Such bytes are the bytes of some block, so the lemma above with nothing behind it
  -- applies.
  have hblock : ∃ block : Block n, block.bytes = bytes :=
    ⟨⟨bytes.toArray, h⟩, by simp [Block.bytes]⟩
  obtain ⟨block, rfl⟩ := hblock
  have hself := toBlock_append block []
  rw [List.append_nil] at hself
  rw [hself]

/-- A block of longer bytes is what stands in front. -/
theorem bytes_toBlock_of_le {n : Nat} {bytes : Bytes} (h : n ≤ bytes.length) :
    (toBlock n bytes).bytes = bytes.take n := by
  have hlength : (bytes.take n).length = n := List.length_take_of_le h
  -- The block of the front is the same, as the rest behind it is not looked at.
  have hfront := toBlock_append (toBlock n (bytes.take n)) (bytes.drop n)
  rw [bytes_toBlock hlength, List.take_append_drop] at hfront
  rw [hfront, bytes_toBlock hlength]

/-- A number comes back from its digits, if there are no more of them. -/
theorem toNatLE_ofNatLE {width n : Nat} (h : n >>> (8 * width) = 0) :
    toNatLE (ofNatLE width n) = n := by
  induction width generalizing n with
  | zero => exact h.symm
  | succ width ih =>
      have hshift : n / 256 = n >>> 8 := (Nat.shiftRight_eq_div_pow n 8).symm
      have hrest : (n / 256) >>> (8 * width) = 0 := by
        rw [hshift, ← Nat.shiftRight_add, Nat.add_comm 8]
        exact h
      rw [ofNatLE, toNatLE, ih hrest, UInt8.toNat_ofNat']
      omega

end Custody.Bytes
