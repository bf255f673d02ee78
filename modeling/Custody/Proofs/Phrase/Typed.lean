import Custody.Proofs.Phrase
import Custody.Proofs.Text.Lowercase

/-!
# `Custody.Proofs.Phrase.Typed`: which texts spell a phrase

A phrase is typed by hand, and read leniently. Of the text, only the words in lower case count.
They make a phrase if they carry some entropy (`Carries`): there are 12, 15, 18, 21 or 24 of
them, all in the list, and their places in the list spell the entropy and behind it the first
bits of its digest. `Refused` says what is complained about else: the number of words, then the
first word that is not in the list, then the checksum.

`ofWords_eq_ok_iff` and `ofWords_eq_error_iff` say that the reader goes by these rules. Words that
carry some entropy are the words that are written down for it (`Carries.words_eq`), so what was
typed and what is kept of it are one phrase.
-/

set_option autoImplicit false

namespace Custody

open Crypto (Sha256.digest)

namespace Phrase

variable {words : List String} {word : String} {entropy other : Bytes}

/-! ### Words and their places -/

/-- The place of a word in the list. -/
def place (word : String) : Nat := wordList.idxOf word

/-- A listed word has one of 2048 places. -/
theorem place_lt (h : word ∈ wordList) : place word < 2048 := by
  have hlt := List.idxOf_lt_length_of_mem h
  rwa [length_wordList] at hlt

/-- At the place of a listed word stands this word. -/
theorem wordAt_place (h : word ∈ wordList) : wordAt (place word) = word := by
  have hlt := List.idxOf_lt_length_of_mem h
  rw [wordAt, List.getD_eq_getElem?_getD, place, List.getElem?_eq_getElem hlt, List.getElem_idxOf]
  rfl

/-- Looking up a listed word finds its place. -/
theorem indexOf?_of_mem (h : word ∈ wordList) : indexOf? word = some (place word) := by
  have hindex := indexOf?_wordAt (place_lt h)
  rwa [wordAt_place h] at hindex

/-- Any other word is not found. -/
theorem indexOf?_of_not_mem (h : word ∉ wordList) : indexOf? word = none :=
  List.idxOf?_eq_none_iff.mpr h

/-- Words of the list have their places as indices. -/
theorem indices_of_mem (h : ∀ word ∈ words, word ∈ wordList) (position : Nat) :
    indices position words = .ok (words.map place) := by
  induction words generalizing position with
  | nil => rfl
  | cons word rest ih =>
      rw [indices, indexOf?_of_mem (h word List.mem_cons_self)]
      simp only
      rw [ih fun next hnext => h next (List.mem_cons_of_mem _ hnext)]
      rfl

/-- The first word that is not in the list is complained about by its position. -/
theorem indices_append_cons (h : ∀ word ∈ words, word ∈ wordList) (hword : word ∉ wordList)
    (after : List String) (position : Nat) :
    indices position (words ++ word :: after)
      = .error (.unknownWord (position + words.length)) := by
  induction words generalizing position with
  | nil =>
      rw [List.nil_append, indices, indexOf?_of_not_mem hword]
      rfl
  | cons next rest ih =>
      rw [List.cons_append, indices, indexOf?_of_mem (h next List.mem_cons_self)]
      simp only
      rw [ih (fun w hw => h w (List.mem_cons_of_mem _ hw)) (position + 1), List.length_cons,
        Nat.add_right_comm, Nat.add_assoc]
      rfl

/-- Either all words are in the list, or there is a first one that is not. -/
theorem listed_cases (words : List String) :
    (∀ word ∈ words, word ∈ wordList)
      ∨ ∃ before word after, words = before ++ word :: after
        ∧ (∀ word ∈ before, word ∈ wordList) ∧ word ∉ wordList := by
  induction words with
  | nil => exact .inl fun word hword => absurd hword List.not_mem_nil
  | cons word rest ih =>
      by_cases hword : word ∈ wordList
      · rcases ih with hall | ⟨before, next, after, rfl, hbefore, hnext⟩
        · exact .inl (List.forall_mem_cons.mpr ⟨hword, hall⟩)
        · exact .inr ⟨word :: before, next, after, rfl,
            List.forall_mem_cons.mpr ⟨hword, hbefore⟩, hnext⟩
      · exact .inr ⟨[], word, rest, rfl, fun w hw => absurd hw List.not_mem_nil, hword⟩

/-! ### What words carry -/

/-- The words carry the entropy: their places, in eleven bits each, spell it and behind it one
bit of its digest for every three words. -/
structure Carries (words : List String) (entropy : Bytes) : Prop where
  count : words.length ∈ [12, 15, 18, 21, 24]
  listed : ∀ word ∈ words, word ∈ wordList
  length : 3 * entropy.length = 4 * words.length
  bits : words.flatMap (fun word => bitsOf 11 (place word))
    = bitsOfBytes entropy
      ++ (bitsOfBytes (Sha256.digest entropy).bytes).take (words.length / 3)

/-- What is complained about in words that make no phrase. The number of words comes first, then
the first word that is not in the list, by the number of words before it, then the checksum. -/
inductive Refused (words : List String) : Fault → Prop where
  | wordCount (h : words.length ∉ [12, 15, 18, 21, 24]) : Refused words (.wordCount words.length)
  | unknownWord (h : words.length ∈ [12, 15, 18, 21, 24]) (before : List String) (word : String)
    (after : List String) (hwords : words = before ++ word :: after)
    (hbefore : ∀ known ∈ before, known ∈ wordList) (hword : word ∉ wordList) :
    Refused words (.unknownWord before.length)
  | checksum (h : words.length ∈ [12, 15, 18, 21, 24])
    (hwords : ∀ known ∈ words, known ∈ wordList) (hcarries : ∀ entropy, ¬ Carries words entropy) :
    Refused words .checksum

/-- The numbers of words that are allowed are multiples of three. -/
theorem exists_blocks (h : words.length ∈ wordCounts) :
    ∃ blocks, words.length = blocks * 3 ∧ 4 ≤ blocks ∧ blocks ≤ 8 := by
  unfold wordCounts at h
  simp only [List.mem_cons, List.not_mem_nil, or_false] at h
  exact ⟨words.length / 3, by omega, by omega, by omega⟩

/-- The bits of the places may be taken word by word. -/
theorem flatMap_place (words : List String) :
    (words.map place).flatMap (bitsOf 11) = words.flatMap fun word => bitsOf 11 (place word) :=
  List.flatMap_map place (bitsOf 11) words

/-- Numbers come back from their bits. -/
theorem groups_flatMap_bitsOf {is : List Nat} (h : ∀ i ∈ is, i < 2048) :
    (groups 11 is.length (is.flatMap (bitsOf 11))).map ofBits = is := by
  induction is with
  | nil => rfl
  | cons i rest ih =>
      have hlow : i >>> 11 = 0 := by
        rw [Nat.shiftRight_eq_div_pow]
        exact Nat.div_eq_of_lt (h i List.mem_cons_self)
      rw [List.flatMap_cons, List.length_cons, groups, List.take_left' (length_bitsOf _ _),
        List.drop_left' (length_bitsOf _ _), List.map_cons, ofBits_bitsOf hlow,
        ih fun j hj => h j (List.mem_cons_of_mem _ hj)]

/-- The bits of carried entropy with its checksum are those of the words. -/
theorem Carries.withChecksum_eq (h : Carries words entropy) :
    withChecksum entropy = (words.map place).flatMap (bitsOf 11) := by
  have hlength := h.length
  have hblocks : entropy.length / 4 = words.length / 3 := by
    obtain ⟨blocks, hwords, -⟩ := exists_blocks h.count
    omega
  rw [withChecksum, hblocks, flatMap_place, h.bits]

/-- Words that carry some entropy are those that are written down for it. -/
theorem Carries.words_eq (h : Carries words entropy) : (ofEntropy entropy).words = words := by
  obtain ⟨blocks, hwords, -, -⟩ := exists_blocks h.count
  have hentropy : entropy.length = 4 * blocks := by
    have hlength := h.length
    omega
  have hplaces : ∀ i ∈ words.map place, i < 2048 := by
    intro i hi
    obtain ⟨word, hword, rfl⟩ := List.mem_map.mp hi
    exact place_lt (h.listed word hword)
  have hspelled : spelled entropy blocks = words.map place := by
    rw [spelled, h.withChecksum_eq, ← hwords, ← List.length_map (f := place)]
    exact groups_flatMap_bitsOf hplaces
  rw [words_ofEntropy hentropy, hspelled, List.map_map]
  have hback : words.map (wordAt ∘ place) = words.map id :=
    List.map_congr_left fun word hword => wordAt_place (h.listed word hword)
  rw [hback, List.map_id]

/-- Words carry one string of entropy at most. -/
theorem Carries.unique (h : Carries words entropy) (h' : Carries words other) :
    other = entropy := by
  have hlength : other.length = entropy.length := by
    have hfirst := h.length
    have hsecond := h'.length
    omega
  have hbits := h'.bits.symm.trans h.bits
  have hfront : bitsOfBytes other = bitsOfBytes entropy :=
    (List.append_inj hbits (by rw [length_bitsOfBytes, length_bitsOfBytes, hlength])).1
  rw [← bytesOfBits_bitsOfBytes other, hfront, bytesOfBits_bitsOfBytes]

/-- The entropy that the reader takes off the words is carried, if its checksum is right. -/
theorem carries_entropyOf (hcount : words.length ∈ wordCounts)
    (hlisted : ∀ word ∈ words, word ∈ wordList)
    (hbits : (words.map place).flatMap (bitsOf 11) = withChecksum (entropyOf (words.map place))) :
    Carries words (entropyOf (words.map place)) := by
  obtain ⟨blocks, hwords, -, -⟩ := exists_blocks hcount
  have hall : ((words.map place).flatMap (bitsOf 11)).length = 11 * words.length := by
    rw [List.length_flatMap]
    simp [Function.comp_def, Nat.mul_comm]
  have hlength : 3 * (entropyOf (words.map place)).length = 4 * words.length := by
    rw [entropyOf, bytesOfBits, List.length_map, length_groups, List.length_take, hall,
      List.length_map]
    omega
  have hblocks : (entropyOf (words.map place)).length / 4 = words.length / 3 := by omega
  refine ⟨hcount, hlisted, hlength, ?_⟩
  rw [← flatMap_place, ← hblocks]
  exact hbits

/-- Words carry some entropy or are refused. -/
theorem carries_or_refused (words : List String) :
    (∃ entropy, Carries words entropy) ∨ ∃ fault, Refused words fault := by
  by_cases hcount : words.length ∈ wordCounts
  · rcases listed_cases words with hlisted | ⟨before, word, after, hwords, hbefore, hword⟩
    · by_cases hcarries : ∃ entropy, Carries words entropy
      · exact .inl hcarries
      · exact .inr ⟨_, .checksum hcount hlisted (not_exists.mp hcarries)⟩
    · exact .inr ⟨_, .unknownWord hcount before word after hwords hbefore hword⟩
  · exact .inr ⟨_, .wordCount hcount⟩

/-! ### What the reader makes of words -/

/-- Words that carry some entropy are a phrase. -/
theorem ofWords_of_carries (h : Carries words entropy) : ofWords words = .ok ⟨words⟩ := by
  obtain ⟨blocks, hwords, hleast, hmost⟩ := exists_blocks h.count
  have hentropy : entropy.length = 4 * blocks := by
    have hlength := h.length
    omega
  have hparse := parse_text_ofEntropy hentropy hleast hmost
  rw [parse_text (words_ofEntropy_mem hentropy hmost).2, h.words_eq] at hparse
  rw [hparse, ← h.words_eq]

/-- Words with a fault are refused by it. -/
theorem ofWords_of_refused {fault : Fault} (h : Refused words fault) :
    ofWords words = .error fault := by
  unfold ofWords wordCounts
  cases h with
  | wordCount hcount => rw [if_pos hcount]
  | unknownWord hcount before word after hwords hbefore hword =>
      rw [if_neg (not_not_intro hcount), hwords, indices_append_cons hbefore hword after 0,
        Nat.zero_add]
  | checksum hcount hlisted hcarries =>
      rw [if_neg (not_not_intro hcount), indices_of_mem hlisted 0]
      simp only
      rw [if_neg fun hbits => hcarries _ (carries_entropyOf hcount hlisted hbits)]

/-- Words are a phrase if they carry some entropy. It is their own phrase. -/
theorem ofWords_eq_ok_iff {phrase : Phrase} :
    ofWords words = .ok phrase ↔ phrase = ⟨words⟩ ∧ ∃ entropy, Carries words entropy := by
  constructor
  · intro h
    rcases carries_or_refused words with ⟨entropy, hcarries⟩ | ⟨fault, hrefused⟩
    · rw [ofWords_of_carries hcarries] at h
      exact ⟨(Except.ok.inj h).symm, entropy, hcarries⟩
    · rw [ofWords_of_refused hrefused] at h
      cases h
  · rintro ⟨rfl, entropy, hcarries⟩
    exact ofWords_of_carries hcarries

/-- Words are refused for the fault that they have, and only for that. -/
theorem ofWords_eq_error_iff {fault : Fault} :
    ofWords words = .error fault ↔ Refused words fault := by
  constructor
  · intro h
    rcases carries_or_refused words with ⟨entropy, hcarries⟩ | ⟨other, hrefused⟩
    · rw [ofWords_of_carries hcarries] at h
      cases h
    · rw [ofWords_of_refused hrefused] at h
      exact Except.error.inj h ▸ hrefused
  · exact ofWords_of_refused

/-- The words that are written down for some entropy carry it. -/
theorem carries_ofEntropy {blocks : Nat} (h : entropy.length = 4 * blocks) (hleast : 4 ≤ blocks)
    (hmost : blocks ≤ 8) : Carries (ofEntropy entropy).words entropy := by
  obtain ⟨hcount, hmem⟩ := words_ofEntropy_mem h hmost
  have hparse := parse_text_ofEntropy h hleast hmost
  rw [parse_text hmem] at hparse
  obtain ⟨-, other, hother⟩ := ofWords_eq_ok_iff.mp hparse
  have hlength : other.length = 4 * blocks := by
    have hwords := hother.length
    omega
  -- The same words have the same indices, and the entropy is read off the indices.
  have hindices := indices_ofEntropy hlength hmost
  rw [hother.words_eq, indices_ofEntropy h hmost] at hindices
  have hspelled : spelled entropy blocks = spelled other blocks := Except.ok.inj hindices
  have heq : other = entropy := by
    rw [← entropyOf_spelled hlength hmost, ← hspelled, entropyOf_spelled h hmost]
  rwa [heq] at hother

/-! ### Texts -/

open Text (LowersTo SameLetter)

/-- A word of the list has no sigma, so it is one word in all its forms. -/
theorem sameLetters_of_mem {cs ds : List Char} (h : List.Forall₂ SameLetter cs ds)
    (hmem : String.ofList cs ∈ wordList ∨ String.ofList ds ∈ wordList) : ds = cs := by
  have hplain : (∀ c ∈ cs, Text.isPlain c) ∨ ∀ d ∈ ds, Text.isPlain d := by
    refine hmem.imp (fun hword => ?_) fun hword => ?_
    · simpa using (plain_of_mem_wordList hword).2
    · simpa using (plain_of_mem_wordList hword).2
  clear hmem
  induction h with
  | nil => rfl
  | cons hletter hrest ih =>
      rw [hletter.eq_of_isPlain (hplain.imp (· _ List.mem_cons_self) (· _ List.mem_cons_self)),
        ih (hplain.imp (fun h c hc => h c (List.mem_cons_of_mem _ hc))
          fun h d hd => h d (List.mem_cons_of_mem _ hd))]

/-- Words of the same letters have the same indices, or the same one is unknown. -/
theorem indices_of_sameLetters {first second : List (List Char)}
    (h : List.Forall₂ (List.Forall₂ SameLetter) first second) (position : Nat) :
    indices position (second.map String.ofList) = indices position (first.map String.ofList) := by
  induction h generalizing position with
  | nil => rfl
  | @cons cs ds rest more hword hrest ih =>
      rw [List.map_cons, List.map_cons, indices, indices, ih]
      by_cases hmem : String.ofList cs ∈ wordList ∨ String.ofList ds ∈ wordList
      · rw [sameLetters_of_mem hword hmem]
      · obtain ⟨hfirst, hsecond⟩ := not_or.mp hmem
        rw [indexOf?_of_not_mem hfirst, indexOf?_of_not_mem hsecond]

/-- Words of the same letters as listed words are these words. -/
theorem eq_of_sameLetters {first second : List (List Char)}
    (h : List.Forall₂ (List.Forall₂ SameLetter) first second)
    (hmem : ∀ word ∈ first.map String.ofList, word ∈ wordList) : second = first := by
  induction h with
  | nil => rfl
  | cons hword hrest ih =>
      obtain ⟨hfirst, hothers⟩ := List.forall_mem_cons.mp hmem
      rw [sameLetters_of_mem hword (.inl hfirst), ih hothers]

/-- The reader makes the same of words of the same letters. -/
theorem ofWords_of_sameLetters {first second : List (List Char)}
    (h : List.Forall₂ (List.Forall₂ SameLetter) first second) :
    ofWords (second.map String.ofList) = ofWords (first.map String.ofList) := by
  unfold ofWords
  rw [indices_of_sameLetters h, List.length_map, List.length_map, h.length_eq]
  cases hindices : indices 0 (first.map String.ofList) with
  | error fault => rfl
  | ok is => rw [eq_of_sameLetters h (mem_of_indices hindices)]

/-- Reading goes by the words in lower case, in whichever form their sigmas are. -/
theorem parse_eq_ofWords {typed : String} {lowered : List Char}
    (h : LowersTo typed.toList lowered) :
    parse typed = ofWords ((Text.words lowered).map String.ofList) := by
  rw [parse, Text.words_lower_trimChars, ofWords_of_sameLetters (Text.sameLetters_words h)]

/-! ### All three readers -/

section
variable {typed : String} {fault : Fault}

/-- A text is valid if it can be read as a phrase. -/
theorem isValid_iff : isValid typed = true ↔ ∃ phrase, parse typed = .ok phrase := by
  unfold isValid
  cases parse typed <;> simp [Except.isOk, Except.toBool]

/-- A text has a normal form if it can be read as a phrase. -/
theorem exists_normalize_iff :
    (∃ text, normalize typed = .ok text) ↔ ∃ phrase, parse typed = .ok phrase := by
  unfold normalize
  cases parse typed <;> simp [Except.map]

/-- A text has a key if it can be read as a phrase. -/
theorem exists_derive_iff :
    (∃ keypair, derive typed = .ok keypair) ↔ ∃ phrase, parse typed = .ok phrase := by
  unfold derive
  cases parse typed <;> simp [Except.map]

/-- If a text has no normal form, the fault is that of the reading. -/
theorem normalize_eq_error_iff : normalize typed = .error fault ↔ parse typed = .error fault := by
  unfold normalize
  cases parse typed <;> simp [Except.map]

/-- If a text has no key, the fault is that of the reading. -/
theorem derive_eq_error_iff : derive typed = .error fault ↔ parse typed = .error fault := by
  unfold derive
  cases parse typed <;> simp [Except.map]

/-- What is made of a phrase that was typed, and of its text. -/
theorem normalize_of_parse {phrase : Phrase} (h : parse typed = .ok phrase) :
    normalize typed = .ok phrase.text ∧ normalize phrase.text = .ok phrase.text := by
  rw [normalize, normalize, h, parse_text_of_parse h]
  exact ⟨rfl, rfl⟩

/-- The text has the key of its phrase, and so has its normal form. -/
theorem derive_of_parse {phrase : Phrase} (h : parse typed = .ok phrase) :
    derive typed = .ok phrase.keypair ∧ derive phrase.text = .ok phrase.keypair := by
  rw [derive, derive, h, parse_text_of_parse h]
  exact ⟨rfl, rfl⟩

end

/-- Which texts spell a phrase, and what is made of them. Let `lowered` be the text in lower case,
with final sigmas or without, and take its words. Reading, putting in normal form and deriving a
key pair succeed together, and they do so just if the words carry some entropy; else they fail
together, with the complaint that is due (`Refused`). The normal form is the words with single
spaces between them, and the phrase that is written down for the entropy that they carry, which
is the only one. It is its own normal form, and gives the same key pair as the text. So any other
text with the same words gives the same key pair or the same complaint. -/
theorem typed_phrase_is_its_words (typed : String) (lowered : List Char)
    (h : LowersTo typed.toList lowered) :
    let words := (Text.words lowered).map String.ofList
    (isValid typed = true ↔ ∃ entropy, Carries words entropy)
      ∧ ((∃ text, normalize typed = .ok text) ↔ ∃ entropy, Carries words entropy)
      ∧ ((∃ keypair, derive typed = .ok keypair) ↔ ∃ entropy, Carries words entropy)
      ∧ (∀ fault, normalize typed = .error fault ↔ Refused words fault)
      ∧ (∀ fault, derive typed = .error fault ↔ Refused words fault)
      ∧ (∀ entropy, Carries words entropy →
        normalize typed = .ok (" ".intercalate words)
          ∧ " ".intercalate words = (ofEntropy entropy).text
          ∧ (∀ other, Carries words other → other = entropy)
          ∧ normalize (" ".intercalate words) = .ok (" ".intercalate words)
          ∧ ∃ keypair, derive typed = .ok keypair
            ∧ derive (" ".intercalate words) = .ok keypair)
      ∧ ∀ (other : String) (otherLowered : List Char), LowersTo other.toList otherLowered →
        Text.words otherLowered = Text.words lowered → derive other = derive typed := by
  intro words
  have hparse : parse typed = ofWords words := parse_eq_ofWords h
  have hok : (∃ phrase, parse typed = .ok phrase) ↔ ∃ entropy, Carries words entropy := by
    simp only [hparse, ofWords_eq_ok_iff, exists_eq_left]
  have hfault : ∀ fault, parse typed = .error fault ↔ Refused words fault := by
    intro fault
    rw [hparse]
    exact ofWords_eq_error_iff
  refine ⟨isValid_iff.trans hok, exists_normalize_iff.trans hok, exists_derive_iff.trans hok,
    fun fault => normalize_eq_error_iff.trans (hfault fault),
    fun fault => derive_eq_error_iff.trans (hfault fault), fun entropy hcarries => ?_,
    fun other otherLowered hother hwords => ?_⟩
  · have hphrase : parse typed = .ok ⟨words⟩ := hparse.trans (ofWords_of_carries hcarries)
    obtain ⟨hnormal, hagain⟩ := normalize_of_parse hphrase
    refine ⟨hnormal, ?_, fun other hother => hcarries.unique hother, hagain, _,
      derive_of_parse hphrase⟩
    rw [text, hcarries.words_eq]
  · rw [derive, derive, hparse, parse_eq_ofWords hother, hwords]

/-- A phrase typed behind a wide blank gives the key pair of the phrase itself. A lone sigma is one
word, whichever form it has in lower case, and one word is too few. -/
theorem typed_phrase_is_its_words_blank :
    ∃ (typed : String) (entropy : Bytes) (keypair : Keypair),
      typed = "\u3000" ++ (ofEntropy entropy).text ∧ entropy.length = 32
        ∧ isValid typed = true ∧ normalize typed = .ok (ofEntropy entropy).text
        ∧ derive typed = .ok keypair ∧ derive (ofEntropy entropy).text = .ok keypair
        ∧ LowersTo "\u03a3".toList ['\u03c2'] ∧ derive "\u03a3" = .error (.wordCount 1) := by
  let entropy : Bytes := List.replicate 32 7
  let phrase := ofEntropy entropy
  let typed : String := "\u3000" ++ phrase.text
  have hentropy : entropy.length = 4 * 8 := by decide
  have hcarries : Carries phrase.words entropy := carries_ofEntropy hentropy (by decide) (by decide)
  have hwords : (Text.words (Text.lower typed.toList)).map String.ofList = phrase.words := by
    have hlower : Text.lower phrase.text.toList = phrase.text.toList :=
      Text.lower_eq_self (lowerChar_text hcarries.listed)
    have hblank : Text.isBlank '\u3000' = true := by decide
    have hfront : typed.toList = '\u3000' :: phrase.text.toList := by
      rw [String.toList_append]
      rfl
    have hsplit : Text.lower typed.toList = '\u3000' :: phrase.text.toList := by
      rw [hfront, ← List.singleton_append, Text.lower_append, hlower,
        Text.lower_of_blanks (List.forall_mem_singleton.mpr hblank)]
    rw [hsplit, Text.words_cons_blank hblank, words_text hcarries.listed, List.map_map]
    exact List.map_id'' (fun word => String.ofList_toList) _
  obtain ⟨hvalid, -, -, -, -, hcarried, -⟩ :=
    typed_phrase_is_its_words typed _ (Text.lowersTo_lower typed.toList)
  rw [hwords] at hvalid hcarried
  obtain ⟨hnormal, htext, -, -, keypair, hderive, hagain⟩ := hcarried entropy hcarries
  have hsigma : LowersTo "\u03a3".toList ['\u03c2'] :=
    .cons (.inr ⟨by decide, rfl⟩) .nil
  obtain ⟨-, -, -, -, hrefused, -⟩ := typed_phrase_is_its_words "\u03a3" _ hsigma
  rw [htext] at hnormal hagain
  refine ⟨typed, entropy, keypair, rfl, hentropy, hvalid.mpr ⟨entropy, hcarries⟩, hnormal,
    hderive, hagain, hsigma, (hrefused _).mpr ?_⟩
  exact .wordCount (by decide)

end Phrase

end Custody
