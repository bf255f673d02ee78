import Custody.Crypto.Gcm

/-!
# `Custody.Proofs.Crypto.Gcm`: what was encrypted is decrypted

`Gcm.decrypt?_encrypt`: under the same key and nonce the plaintext comes back. Nothing else is
decrypted (`Gcm.encrypt_of_decrypt?`). Adding a
keystream twice gives the data back as long as the keystream reaches to its end, and the tag
stands where the reader looks for it as long as it has sixteen bytes. Both are facts about
lengths, and they rest on one fact about the cipher: it gives a block for a block
(`Aes256.length_encrypt`).
-/

set_option autoImplicit false

namespace Custody

namespace Bytes

/-- Every piece of a string that is long enough has the length of a piece. -/
theorem length_of_mem_pieces (size count : Nat) (bytes : Bytes) (h : size * count ≤ bytes.length) :
    ∀ piece ∈ pieces size count bytes, piece.length = size := by
  induction count generalizing bytes with
  | zero => intro piece hpiece; cases hpiece
  | succ count ih =>
      rw [Nat.mul_succ] at h
      intro piece hpiece
      rcases List.mem_cons.mp hpiece with rfl | hpiece
      · rw [List.length_take]
        omega
      · exact ih _ (by rw [List.length_drop]; omega) piece hpiece

/-- A string of whole pieces is cut into whole pieces. -/
theorem length_of_mem_chunks (size count : Nat) (bytes : Bytes) (hsize : 0 < size)
    (h : bytes.length = size * count) : ∀ chunk ∈ chunks size bytes, chunk.length = size := by
  have hcount : (bytes.length + size - 1) / size = count := by
    rw [h]
    apply Nat.div_eq_of_lt_le
    · rw [Nat.mul_comm]
      omega
    · rw [Nat.succ_mul, Nat.mul_comm size count]
      omega
  unfold chunks
  rw [hcount]
  exact length_of_mem_pieces size count bytes (by omega)

/-- There are as many pieces as were asked for. -/
@[simp] theorem length_pieces (size count : Nat) (bytes : Bytes) :
    (pieces size count bytes).length = count := by
  induction count generalizing bytes with
  | zero => rfl
  | succ count ih => rw [pieces, List.length_cons, ih]

/-- Adding a string that reaches far enough twice changes nothing. -/
theorem xor_xor (data stream : Bytes) (h : data.length ≤ stream.length) :
    (data.xor stream).xor stream = data := by
  induction data generalizing stream with
  | nil => rfl
  | cons b data ih =>
      cases stream with
      | nil => simp at h
      | cons s stream =>
          have hrest := ih stream (by simpa using h)
          simp only [xor, List.zipWith_cons_cons] at hrest ⊢
          rw [hrest, UInt8.xor_assoc, UInt8.xor_self, UInt8.xor_zero]

end Bytes

namespace Crypto

/-! ### The cipher gives a block for a block -/

namespace Aes256

/-- A key schedule goes on in words of four bytes, eight at a time. -/
def Words (words : List Bytes) : Prop := words.length = 8 ∧ ∀ word ∈ words, word.length = 4

/-- The next eight words are words, too. -/
theorem words_expandStep (last : List Bytes) (constant : UInt8) (h : Words last) :
    Words (expandStep last constant) := by
  obtain ⟨hlength, hwords⟩ := h
  -- The words are named one by one: all but the last enter only with their lengths.
  match last, hlength with
  | [w0, w1, w2, w3, w4, w5, w6, w7], _ =>
    simp only [List.mem_cons, List.not_mem_nil, or_false, forall_eq_or_imp, forall_eq] at hwords
    obtain ⟨h0, h1, h2, h3, h4, h5, h6, h7⟩ := hwords
    -- Its bytes are turned round, so the last word is needed byte by byte.
    match w7, h7 with
    | [b0, b1, b2, b3], _ =>
      simp [Words, expandStep, h0, h1, h2, h3, h4, h5, h6]

/-- All words of the schedule have four bytes, and the last eight are words. -/
theorem words_fold (constants : List UInt8) (all last : List Bytes)
    (hall : ∀ word ∈ all, word.length = 4) (hlast : Words last) :
    let folded := constants.foldl (fun (all, last) constant =>
      let next := expandStep last constant
      (all ++ next, next)) (all, last)
    folded.1.length = all.length + 8 * constants.length
      ∧ ∀ word ∈ folded.1, word.length = 4 := by
  induction constants generalizing all last with
  | nil => exact ⟨rfl, hall⟩
  | cons constant constants ih =>
      have hnext := words_expandStep last constant hlast
      have happend : ∀ word ∈ all ++ expandStep last constant, word.length = 4 := by
        intro word hword
        rcases List.mem_append.mp hword with hword | hword
        · exact hall word hword
        · exact hnext.2 word hword
      obtain ⟨hlength, hwords⟩ := ih _ _ happend hnext
      refine ⟨?_, hwords⟩
      rw [List.foldl_cons, hlength, List.length_append, hnext.1, List.length_cons]
      omega

/-- The bytes of words of four bytes. -/
theorem length_flatten_words (words : List Bytes) (h : ∀ word ∈ words, word.length = 4) :
    words.flatten.length = 4 * words.length := by
  induction words with
  | nil => rfl
  | cons word words ih =>
      rw [List.flatten_cons, List.length_append, h word List.mem_cons_self,
        ih fun w hw => h w (List.mem_cons_of_mem _ hw), List.length_cons]
      omega

/-- Every round key has sixteen bytes. -/
theorem length_of_mem_roundKeys (key : Block 32) : ∀ k ∈ roundKeys key, k.length = 16 := by
  have hlength : key.bytes.length = 4 * 8 := Block.length_bytes key
  have hstart : Words (key.bytes.chunks 4) := by
    refine ⟨?_, Bytes.length_of_mem_chunks 4 8 _ (by decide) hlength⟩
    rw [Bytes.chunks, Bytes.length_pieces, hlength]
  obtain ⟨hcount, hwords⟩ := words_fold roundConstants _ _ hstart.2 hstart
  unfold roundKeys
  apply Bytes.length_of_mem_chunks 16 15 _ (by decide)
  rw [length_flatten_words _ fun w hw => hwords w (List.mem_of_mem_take hw), List.length_take]
  simp only at hcount
  rw [hcount, hstart.1]
  rfl

/-- Mixing keeps whole columns. -/
theorem length_mixColumns (state : Bytes) (h : state.length = 16) :
    (mixColumns state).length = 16 := by
  match state, h with
  | [_, _, _, _, _, _, _, _, _, _, _, _, _, _, _, _], _ => rfl

/-- The rounds keep the length of a block. -/
theorem length_rounds (state : Bytes) (keys : List Bytes) (hstate : state.length = 16)
    (hkeys : ∀ key ∈ keys, key.length = 16) : (rounds state keys).length = 16 := by
  fun_induction rounds state keys with
  | case1 state => exact hstate
  | case2 state key =>
      rw [Bytes.length_xor, hkeys key List.mem_cons_self]
      rfl
  | case3 state key keys hne ih =>
      apply ih
      · rw [Bytes.length_xor, length_mixColumns _ rfl, hkeys key List.mem_cons_self]
        rfl
      · exact fun k hk => hkeys k (List.mem_cons_of_mem _ hk)

/-- The cipher gives a block for a block. -/
theorem length_encrypt (key : Block 32) (block : Bytes) (h : block.length = 16) :
    (encrypt (roundKeys key) block).length = 16 := by
  have hkeys := length_of_mem_roundKeys key
  unfold encrypt
  split
  · exact h
  · rename_i first rest hcons
    rw [hcons] at hkeys
    apply length_rounds
    · rw [Bytes.length_xor, h, hkeys first List.mem_cons_self]
      rfl
    · exact fun k hk => hkeys k (List.mem_cons_of_mem _ hk)

end Aes256

/-! ### Encryption and decryption -/

namespace Gcm

/-- A counter block fills one block of the cipher. -/
@[simp] theorem length_counterBlock (nonce : Block 12) (count : Nat) :
    (counterBlock nonce count).length = 16 := by
  simp [counterBlock]

/-- There is enough keystream. -/
theorem le_length_keystream (key : Block 32) (nonce : Block 12) (length : Nat) :
    length ≤ (keystream (Aes256.roundKeys key) nonce length).length := by
  have hblocks : ∀ count, ((List.range count).flatMap fun i =>
      Aes256.encrypt (Aes256.roundKeys key) (counterBlock nonce (i + 2))).length = 16 * count := by
    intro count
    induction count with
    | zero => rfl
    | succ count ih =>
        rw [List.range_succ, List.flatMap_append, List.length_append, ih, List.flatMap_singleton,
          Aes256.length_encrypt _ _ (length_counterBlock _ _), Nat.mul_succ]
  rw [keystream, hblocks]
  omega

/-- The keystream covers the data and changes no length. -/
@[simp] theorem length_addKeystream (key : Block 32) (nonce : Block 12) (data : Bytes) :
    (addKeystream (Aes256.roundKeys key) nonce data).length = data.length := by
  have h := le_length_keystream key nonce data.length
  rw [addKeystream, Bytes.length_xor]
  omega

/-- Adding the keystream twice gives the data back. -/
theorem addKeystream_addKeystream (key : Block 32) (nonce : Block 12) (data : Bytes) :
    addKeystream (Aes256.roundKeys key) nonce (addKeystream (Aes256.roundKeys key) nonce data)
      = data := by
  have hlength := length_addKeystream key nonce data
  rw [addKeystream, hlength, addKeystream]
  exact Bytes.xor_xor _ _ (le_length_keystream key nonce data.length)

/-- A tag has sixteen bytes. -/
@[simp] theorem length_tag (key : Block 32) (nonce : Block 12) (ciphertext : Bytes) :
    (tag (Aes256.roundKeys key) nonce ciphertext).length = tagLength := by
  simp only [tag, Bytes.length_xor, Bytes.length_ofNatBE,
    Aes256.length_encrypt _ _ (length_counterBlock _ _)]
  rfl

/-- What was encrypted is decrypted under the same key and nonce. -/
theorem decrypt?_encrypt (key : Block 32) (nonce : Block 12) (plaintext : Bytes) :
    decrypt? key nonce (encrypt key nonce plaintext) = some plaintext := by
  -- The reader finds the tag by its distance from the end.
  have hsub : (encrypt key nonce plaintext).length - tagLength
      = (addKeystream (Aes256.roundKeys key) nonce plaintext).length := by
    rw [encrypt, List.length_append, length_tag, Nat.add_sub_cancel]
  unfold decrypt?
  rw [hsub]
  simp only [encrypt, List.take_left, List.drop_left, List.length_append, length_tag]
  rw [if_pos ⟨Nat.le_add_left _ _, trivial⟩, addKeystream_addKeystream]

/-- What is decrypted was encrypted: nothing else carries its own tag. -/
theorem encrypt_of_decrypt? {key : Block 32} {nonce : Block 12} {data plaintext : Bytes}
    (h : decrypt? key nonce data = some plaintext) : encrypt key nonce plaintext = data := by
  unfold decrypt? at h
  simp only at h
  split at h
  · rename_i htag
    cases h
    simp only [encrypt, addKeystream_addKeystream, ← htag.2]
    exact List.take_append_drop _ data
  · cases h

/-- What is encrypted grows by a tag. -/
theorem length_encrypt (key : Block 32) (nonce : Block 12) (plaintext : Bytes) :
    (encrypt key nonce plaintext).length = plaintext.length + tagLength := by
  simp only [encrypt, List.length_append, length_addKeystream, length_tag]

end Gcm

end Crypto

end Custody
