import Custody.Text.Hex

/-!
# `Custody.Proofs.Text.Hex`: what is written as digits or as UTF-8 reads back

Two round trips on which every stored secret rests.

* `Bytes.toText?_ofText`: the bytes of a text spell that text.
* `Hex.decode_encode`: the digits of a byte string give that byte string. The reader looks at
  bytes and the writer makes characters, so the way leads through `Bytes.ofText_ofList_ascii`:
  characters of ASCII are one byte each.
-/

set_option autoImplicit false

namespace Custody

namespace Bytes

/-- The bytes of a text spell the text. -/
theorem toText?_ofText (text : String) : toText? (ofText text) = some text := by
  -- The bytes are those of the text itself, so they are valid as they stand.
  have hbytes : (ofText text).toByteArray = text.toByteArray := by
    apply ByteArray.ext
    simp [ofText]
  unfold toText? String.fromUTF8?
  rw [hbytes, dif_pos text.isValidUTF8]
  rfl

/-- A text of ASCII characters has one byte for each of them. -/
theorem ofText_ofList_ascii (cs : List Char) (h : ∀ c ∈ cs, c.toNat < 128) :
    ofText (String.ofList cs) = cs.map fun c => UInt8.ofNat c.toNat := by
  have hchar : ∀ c ∈ cs, String.utf8EncodeChar c = [UInt8.ofNat c.toNat] := by
    intro c hc
    have hsize : c.utf8Size = 1 := by
      have hlt := h c hc
      rw [Char.utf8Size_eq_one_iff, UInt32.le_iff_toNat_le]
      have hval : c.val.toNat = c.toNat := rfl
      rw [hval]
      exact Nat.le_of_lt_succ hlt
    rw [String.utf8EncodeChar_eq_singleton hsize]
    rfl
  have hbytes : ofText (String.ofList cs) = cs.flatMap String.utf8EncodeChar := by
    simp [ofText, List.utf8Encode]
  rw [hbytes]
  -- The induction is on the characters alone; the bound is in `hchar` by now.
  clear hbytes h
  induction cs with
  | nil => rfl
  | cons c cs ih =>
      rw [List.flatMap_cons, List.map_cons, hchar c List.mem_cons_self,
        ih fun d hd => hchar d (List.mem_cons_of_mem _ hd)]
      rfl

end Bytes

namespace Text.Hex

/-- A digit is a character of ASCII. -/
theorem digit_lt (n : Nat) (h : n < 16) : (digit n).toNat < 128 := by
  have all : ∀ m < 16, (digit m).toNat < 128 := by decide
  exact all n h

/-- A digit has the value that it was written for. -/
theorem value?_digit (n : Nat) (h : n < 16) :
    value? (UInt8.ofNat (digit n).toNat) = some (UInt8.ofNat n) := by
  have all : ∀ m < 16, value? (UInt8.ofNat (digit m).toNat) = some (UInt8.ofNat m) := by decide
  exact all n h

/-- The two halves of a byte make up the byte. -/
theorem halves (b : UInt8) :
    16 * UInt8.ofNat (b.toNat / 16) + UInt8.ofNat (b.toNat % 16) = b := by
  have hlt := b.toNat_lt
  have hsize : UInt8.size = 256 := rfl
  apply UInt8.toNat_inj.mp
  rw [UInt8.toNat_add, UInt8.toNat_mul, UInt8.toNat_ofNat_of_lt' (by omega),
    UInt8.toNat_ofNat_of_lt' (by omega)]
  simp only [UInt8.toNat_ofNat]
  omega

/-- All digits of a byte string are characters of ASCII. -/
theorem encode_ascii (bytes : Bytes) : ∀ c ∈ bytes.flatMap pair, c.toNat < 128 := by
  intro c hc
  obtain ⟨b, -, hb⟩ := List.mem_flatMap.mp hc
  have hlt := b.toNat_lt
  rcases List.mem_cons.mp hb with rfl | hb
  · exact digit_lt _ (by omega)
  · rw [List.mem_singleton] at hb
    subst hb
    exact digit_lt _ (by omega)

/-- The reader takes the digits of a byte string two at a time, wherever they stand. -/
theorem decodePairs_pairs (bytes : Bytes) (position : Nat) :
    decodePairs position ((bytes.flatMap pair).map fun c => UInt8.ofNat c.toNat) = .ok bytes := by
  induction bytes generalizing position with
  | nil => rfl
  | cons b rest ih =>
      have hlt := b.toNat_lt
      have high := value?_digit (b.toNat / 16) (by omega)
      have low := value?_digit (b.toNat % 16) (by omega)
      rw [List.flatMap_cons, List.map_append]
      simp only [pair, List.map_cons, List.map_nil, List.cons_append, List.nil_append]
      rw [decodePairs]
      simp only [valueAt, high, low, ih]
      show Except.ok ((16 * UInt8.ofNat (b.toNat / 16) + UInt8.ofNat (b.toNat % 16)) :: rest) = _
      rw [halves]

/-- Two digits are written for every byte. -/
theorem length_pairs (bytes : Bytes) : (bytes.flatMap pair).length = 2 * bytes.length := by
  induction bytes with
  | nil => rfl
  | cons b rest ih =>
      rw [List.flatMap_cons, List.length_append, ih, List.length_cons]
      show 2 + 2 * rest.length = _
      omega

/-- The digits of a byte string give that byte string. -/
theorem decode_encode (bytes : Bytes) : decode (encode bytes) = .ok bytes := by
  have hread : Bytes.ofText (encode bytes)
      = (bytes.flatMap pair).map fun c => UInt8.ofNat c.toNat :=
    Bytes.ofText_ofList_ascii _ (encode_ascii bytes)
  have heven : ((bytes.flatMap pair).map fun c => UInt8.ofNat c.toNat).length % 2 ≠ 1 := by
    rw [List.length_map, length_pairs]
    omega
  unfold decode
  rw [hread]
  simp only [if_neg heven]
  exact decodePairs_pairs bytes 0

end Text.Hex

end Custody
