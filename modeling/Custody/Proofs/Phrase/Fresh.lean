import Custody.Proofs.Phrase
import Custody.Proofs.Wallet.Outcome

/-!
# `Custody.Proofs.Phrase.Fresh`: phrases of fresh entropy

A new wallet draws sixteen bytes and writes them down as twelve words. From the words alone
everything comes back: the text is read as the phrase that it is (`Phrase.parse_text_ofEntropy`),
so it gives the key pair of the new wallet, and from the indices of the words come the sixteen
bytes. So no two draws are written alike (`Phrase.text_ofEntropy_inj`).
-/

set_option autoImplicit false

namespace Custody

open Command

namespace Phrase

open Text (isPlain)

section
variable {entropy other : Bytes} {blocks : Nat}

/-- Two strings of entropy that are written alike are the same. -/
theorem text_ofEntropy_inj (h : entropy.length = 4 * blocks) (hother : other.length = 4 * blocks)
    (hleast : 4 ≤ blocks) (hmost : blocks ≤ 8)
    (htext : (ofEntropy other).text = (ofEntropy entropy).text) : other = entropy := by
  have hparse := parse_text_ofEntropy h hleast hmost
  rw [← htext, parse_text_ofEntropy hother hleast hmost] at hparse
  -- The same words have the same indices, and the entropy is read off the indices.
  have hindices := indices_ofEntropy h hmost
  rw [← Except.ok.inj hparse, indices_ofEntropy hother hmost] at hindices
  have hspelled : spelled other blocks = spelled entropy blocks := Except.ok.inj hindices
  rw [← entropyOf_spelled hother hmost, hspelled, entropyOf_spelled h hmost]

end

/-- Whatever sixteen bytes are drawn, the new phrase consists of twelve words of the list in
lower case, with single spaces between them. It is a valid phrase in its normal form, and the key
pair that is derived from it is that of the new wallet. Any other sixteen bytes give another
phrase. -/
theorem fresh_phrase_restores_its_key (entropy : Bytes)
    (hlength : entropy.length = Wallet.entropyLength) :
    (∀ world : World, (world.tape.draw Wallet.entropyLength).1 = entropy →
        ∃ after, Wallet.newPhrase.runIn world = (.ok (ofEntropy entropy), after))
      ∧ (∃ words : List String, words.length = 12
        ∧ (∀ word ∈ words, word ∈ wordList ∧ word ≠ "" ∧ ∀ c ∈ word.toList, isPlain c)
        ∧ (ofEntropy entropy).text = " ".intercalate words)
      ∧ isValid (ofEntropy entropy).text = true
      ∧ normalize (ofEntropy entropy).text = .ok (ofEntropy entropy).text
      ∧ derive (ofEntropy entropy).text = .ok (ofEntropy entropy).keypair
      ∧ ∀ other : Bytes, other.length = Wallet.entropyLength → other ≠ entropy →
        (ofEntropy other).text ≠ (ofEntropy entropy).text := by
  -- Sixteen bytes are four blocks of four.
  have hblocks : entropy.length = 4 * 4 := hlength
  have hparse := parse_text_ofEntropy hblocks (by decide) (by decide)
  obtain ⟨hcount, hwords⟩ := words_ofEntropy_mem hblocks (by decide)
  refine ⟨fun world hdraw => ?_, ⟨(ofEntropy entropy).words, hcount, fun word hword => ?_, rfl⟩,
    ?_, ?_, ?_, fun other hother hne htext => ?_⟩
  · rw [← hdraw, Wallet.newPhrase, runIn_onTape]
    exact ⟨_, rfl⟩
  · have hmem := hwords word hword
    obtain ⟨hne, hplain⟩ := plain_of_mem_wordList hmem
    refine ⟨hmem, ?_, hplain⟩
    rintro rfl
    exact hne rfl
  · rw [isValid, hparse]
    rfl
  · rw [normalize, hparse]
    rfl
  · rw [derive, hparse]
    rfl
  · exact hne (text_ofEntropy_inj hblocks hother (by decide) (by decide) htext)

/-- Two draws from one tape: both phrases restore their keys, and they differ. -/
theorem fresh_phrase_restores_its_key_twice :
    ∃ (world after : World) (first second : Bytes) (phrase : Phrase),
      first.length = Wallet.entropyLength ∧ second.length = Wallet.entropyLength
        ∧ second ≠ first ∧ (world.tape.draw Wallet.entropyLength).1 = first
        ∧ Wallet.newPhrase.runIn world = (.ok phrase, after)
        ∧ derive phrase.text = .ok phrase.keypair
        ∧ (ofEntropy second).text ≠ phrase.text := by
  let tape := Tape.ofBytes [1, 2, 3]
  let first := (tape.draw Wallet.entropyLength).1
  let second := ((tape.draw Wallet.entropyLength).2.draw Wallet.entropyLength).1
  have hfirst : first.length = Wallet.entropyLength := by decide
  have hsecond : second.length = Wallet.entropyLength := by decide
  have hne : second ≠ first := by decide
  obtain ⟨hrun, -, -, -, hderive, hother⟩ := fresh_phrase_restores_its_key first hfirst
  obtain ⟨after, hafter⟩ := hrun ⟨Store.empty, .epoch, tape⟩ rfl
  exact ⟨_, after, first, second, _, hfirst, hsecond, hne, rfl, hafter, hderive,
    hother second hsecond hne⟩

end Phrase

end Custody
