import Custody.Proofs.Phrase.Bits
import Custody.Proofs.Phrase.WordList

/-!
# `Custody.Proofs.Phrase`: a phrase that was written down reads back

`Phrase.parse_text`: the text of a phrase whose words are in the list and whose checksum is
right spells that phrase. Both kinds of phrases that a wallet seals are like that: one that was
typed (`parse_text_of_parse`) and one made of fresh entropy (`parse_text_ofEntropy`).
-/

set_option autoImplicit false

namespace Custody.Phrase

open Text (isPlain)

/-! ### Phrases -/

/-- The words of the joined text are the words that were joined. -/
theorem words_text {phrase : Phrase} (h : ∀ word ∈ phrase.words, word ∈ wordList) :
    Text.words phrase.text.toList = phrase.words.map String.toList := by
  obtain ⟨words⟩ := phrase
  unfold text
  simp only at h ⊢
  induction words with
  | nil =>
      rw [String.intercalate_nil, String.toList_empty]
      rfl
  | cons word rest ih =>
      obtain ⟨hne, hplain⟩ := plain_of_mem_wordList (h word List.mem_cons_self)
      have hword := Text.words_eq_singleton hne
        fun c hc => Text.isBlank_of_isPlain (hplain c hc)
      cases rest with
      | nil => rw [String.intercalate_singleton, hword]; rfl
      | cons next more =>
          have hrest := ih fun word hmem => h word (List.mem_cons_of_mem _ hmem)
          have hblank : (" " : String).toList = [' '] := by decide
          rw [String.intercalate_cons_cons, String.toList_append, String.toList_append, hblank,
            List.append_assoc, List.singleton_append, Text.words_append_cons (by decide), hword,
            hrest]
          rfl

/-- Every character of the joined text stays as it is in lower case. -/
theorem lowerChar_text {phrase : Phrase} (h : ∀ word ∈ phrase.words, word ∈ wordList) :
    ∀ c ∈ phrase.text.toList, Text.lowerChar c = [c] := by
  obtain ⟨words⟩ := phrase
  unfold text
  simp only at h ⊢
  have hplain : ∀ word ∈ words, ∀ c ∈ word.toList, Text.lowerChar c = [c] :=
    fun word hword c hc => Text.lowerChar_of_isPlain ((plain_of_mem_wordList (h word hword)).2 c hc)
  have hblank : Text.lowerChar ' ' = [' '] := by decide
  clear h
  induction words with
  | nil => simp
  | cons word rest ih =>
      cases rest with
      | nil =>
          rw [String.intercalate_singleton]
          exact hplain word List.mem_cons_self
      | cons next more =>
          intro c hc
          rw [String.intercalate_cons_cons, String.toList_append, String.toList_append,
            List.mem_append, List.mem_append] at hc
          rcases hc with (hc | hc) | hc
          · exact hplain word List.mem_cons_self c hc
          · have hsep : (" " : String).toList = [' '] := by decide
            rw [hsep, List.mem_singleton] at hc
            rw [hc, hblank]
          · exact ih (fun word hmem => hplain word (List.mem_cons_of_mem _ hmem)) c hc

/-- The text of a phrase spells the phrase, if its words make one. -/
theorem parse_text {phrase : Phrase} (h : ∀ word ∈ phrase.words, word ∈ wordList) :
    parse phrase.text = ofWords phrase.words := by
  -- Reading lowers the text and trims it. The letters are lower-case as they are, and
  -- blanks around the words do not matter.
  have hlower : Text.lower (Text.trimChars phrase.text.toList)
      = Text.trimChars phrase.text.toList :=
    Text.lower_eq_self fun c hc => lowerChar_text h c (Text.mem_of_mem_trimChars hc)
  have hback : (phrase.words.map String.toList).map String.ofList = phrase.words := by
    rw [List.map_map]
    exact List.map_id'' (fun word => String.ofList_toList) _
  rw [parse, hlower, Text.words_trimChars, words_text h, hback]

/-- Words that all have a number are all in the list. -/
theorem mem_of_indices {words : List String} {position : Nat} {is : List Nat}
    (h : indices position words = .ok is) : ∀ word ∈ words, word ∈ wordList := by
  induction words generalizing position is with
  | nil => exact fun word hword => absurd hword List.not_mem_nil
  | cons word rest ih =>
      rw [indices] at h
      cases hindex : indexOf? word with
      | none =>
          rw [hindex] at h
          cases h
      | some index =>
          rw [hindex] at h
          cases hrest : indices (position + 1) rest with
          | error fault =>
              rw [hrest] at h
              cases h
          | ok js =>
              intro found hfound
              cases List.mem_cons.mp hfound with
              | inl heq =>
                  rw [heq]
                  exact mem_of_indexOf? hindex
              | inr hmem => exact ih hrest found hmem

/-- Words that make a phrase are its words, and they are in the list. -/
theorem ofWords_eq_ok {words : List String} {phrase : Phrase} (h : ofWords words = .ok phrase) :
    phrase.words = words ∧ ∀ word ∈ words, word ∈ wordList := by
  unfold ofWords at h
  split at h
  · cases h
  split at h
  · cases h
  split at h
  · rename_i his _
    cases h
    exact ⟨rfl, mem_of_indices his⟩
  · cases h

/-- The text of a phrase that was typed spells the same phrase. -/
theorem parse_text_of_parse {typed : String} {phrase : Phrase} (h : parse typed = .ok phrase) :
    parse phrase.text = .ok phrase := by
  obtain ⟨hwords, hmem⟩ := ofWords_eq_ok h
  rw [← hwords] at hmem
  rw [parse_text hmem, hwords]
  exact h

/-! ### Fresh phrases -/

/-- The words of some indices have those indices. -/
theorem indices_map_wordAt {is : List Nat} (h : ∀ i ∈ is, i < 2048) (position : Nat) :
    indices position (is.map wordAt) = .ok is := by
  induction is generalizing position with
  | nil => rfl
  | cons i rest ih =>
      rw [List.map_cons, indices, indexOf?_wordAt (h i List.mem_cons_self)]
      simp only
      rw [ih fun j hj => h j (List.mem_cons_of_mem _ hj)]
      rfl

/-- The indices that some entropy with its checksum spells, three for every four bytes. -/
def spelled (entropy : Bytes) (blocks : Nat) : List Nat :=
  (groups 11 (blocks * 3) (withChecksum entropy)).map ofBits

/-- A block of four bytes is spelled by three words. -/
@[simp] theorem length_spelled (entropy : Bytes) (blocks : Nat) :
    (spelled entropy blocks).length = blocks * 3 := by
  rw [spelled, List.length_map, length_groups]

section
variable {entropy : Bytes} {blocks : Nat}

/-- Four bytes make a block. -/
theorem length_div_four (h : entropy.length = 4 * blocks) : entropy.length / 4 = blocks := by
  rw [h, Nat.mul_div_cancel_left _ (by decide)]

/-- The bits of the entropy and of its checksum make up groups of eleven. -/
theorem length_withChecksum (h : entropy.length = 4 * blocks) (hmost : blocks ≤ 8) :
    (withChecksum entropy).length = 11 * (blocks * 3) := by
  rw [withChecksum, List.length_append, length_bitsOfBytes, List.length_take, length_bitsOfBytes,
    Block.length_bytes, length_div_four h, h, Nat.min_eq_left (by omega)]
  omega

/-- The words of a phrase are those that its entropy spells. -/
theorem words_ofEntropy (h : entropy.length = 4 * blocks) :
    (ofEntropy entropy).words = (spelled entropy blocks).map wordAt := by
  rw [ofEntropy, length_div_four h, spelled, List.map_map]
  rfl

/-- Eleven bits are an index into the list of 2048 words. -/
theorem lt_of_mem_spelled (h : entropy.length = 4 * blocks) (hmost : blocks ≤ 8) :
    ∀ i ∈ spelled entropy blocks, i < 2048 := by
  intro i hi
  obtain ⟨group, hgroup, rfl⟩ := List.mem_map.mp hi
  have hlength := length_of_mem_groups (length_withChecksum h hmost) hgroup
  have hshift := ofBits_shiftRight hlength
  rw [Nat.shiftRight_eq_div_pow] at hshift
  exact Nat.lt_of_div_eq_zero (by decide) hshift

/-- The numbers of the words give back the entropy with its checksum. -/
theorem flatMap_spelled (h : entropy.length = 4 * blocks) (hmost : blocks ≤ 8) :
    (spelled entropy blocks).flatMap (bitsOf 11) = withChecksum entropy :=
  flatMap_bitsOf_groups (length_withChecksum h hmost)

/-- The entropy is read off the indices again: it is what is left without the checksum. -/
theorem entropyOf_spelled (h : entropy.length = 4 * blocks) (hmost : blocks ≤ 8) :
    entropyOf (spelled entropy blocks) = entropy := by
  have hlength : (bitsOfBytes entropy).length = blocks * 32 := by
    rw [length_bitsOfBytes, h]
    omega
  -- The checksum stands behind the entropy, one bit for every four bytes.
  have htake : (withChecksum entropy).take (blocks * 32) = bitsOfBytes entropy :=
    List.take_left' hlength
  rw [entropyOf, flatMap_spelled h hmost, length_spelled, Nat.mul_div_cancel _ (by decide), htake,
    bytesOfBits_bitsOfBytes]

/-- There are three words for every four bytes, all of them in the list. -/
theorem words_ofEntropy_mem (h : entropy.length = 4 * blocks) (hmost : blocks ≤ 8) :
    (ofEntropy entropy).words.length = blocks * 3
      ∧ ∀ word ∈ (ofEntropy entropy).words, word ∈ wordList := by
  rw [words_ofEntropy h]
  constructor
  · rw [List.length_map, length_spelled]
  · intro word hword
    obtain ⟨i, hi, rfl⟩ := List.mem_map.mp hword
    exact wordAt_mem (lt_of_mem_spelled h hmost i hi)

/-- The words have the indices that the entropy and its checksum spell. -/
theorem indices_ofEntropy (h : entropy.length = 4 * blocks) (hmost : blocks ≤ 8) :
    indices 0 (ofEntropy entropy).words = .ok (spelled entropy blocks) := by
  rw [words_ofEntropy h]
  exact indices_map_wordAt (lt_of_mem_spelled h hmost) 0

/-- The phrase of some entropy is one, and its text spells it. -/
theorem parse_text_ofEntropy (h : entropy.length = 4 * blocks) (hleast : 4 ≤ blocks)
    (hmost : blocks ≤ 8) : parse (ofEntropy entropy).text = .ok (ofEntropy entropy) := by
  obtain ⟨hlength, hmem⟩ := words_ofEntropy_mem h hmost
  -- Four to eight blocks of three words are the lengths that are allowed.
  have hcount : (ofEntropy entropy).words.length ∈ wordCounts := by
    rw [hlength]
    unfold wordCounts
    simp only [List.mem_cons, List.not_mem_nil, or_false]
    omega
  rw [parse_text hmem, ofWords, if_neg (not_not_intro hcount), indices_ofEntropy h hmost]
  -- The checksum that is compared is the one that was put there.
  simp only [flatMap_spelled h hmost, entropyOf_spelled h hmost, if_true]

end

end Custody.Phrase
