import Custody.Proofs.Text.Hex

/-!
# `Custody.Proofs.Text.Hex.Digits`: which texts are hexadecimal

`Hex.decode` looks at the length in bytes first and then at the bytes from the first one on. So
there are three verdicts on a text: `decode_of_odd`, `decode_of_spoilt` for the first byte that is
no digit, and `decode_of_digits`. The last one says what is read as well: the bytes whose digits
are those of the text in lower case. `decode_eq_ok_iff` is the same as an equivalence: a text gives
`bytes` just if it is `Hex.encode bytes` up to the case of its digits.

The text is a list of characters and the reader sees bytes. Nothing is lost in between where all
bytes are digits (`digits_of_bytes`): such bytes are ASCII, and they spell one text only.
-/

set_option autoImplicit false

namespace Custody

namespace Bytes

/-- Bytes spell one text at most. -/
theorem ofText_injective {text other : String} (h : ofText text = ofText other) :
    text = other := by
  have hread := toText?_ofText text
  rw [h, toText?_ofText] at hread
  exact (Option.some.inj hread).symm

/-- A text whose bytes are ASCII has the characters with the numbers of its bytes. -/
theorem toList_of_ascii {text : String} (h : ∀ b ∈ ofText text, b.toNat < 128) :
    text.toList = (ofText text).map fun b => Char.ofNat b.toNat := by
  have hnumber : ∀ n < 128, (Char.ofNat n).toNat = n := by decide +kernel
  let cs : List Char := (ofText text).map fun b => Char.ofNat b.toNat
  have hascii : ∀ c ∈ cs, c.toNat < 128 := by
    intro c hc
    obtain ⟨b, hb, rfl⟩ := List.mem_map.mp hc
    rw [hnumber _ (h b hb)]
    exact h b hb
  -- The characters have these very bytes, so they are those of the text.
  have hbytes : ofText (String.ofList cs) = ofText text := by
    have hback : ∀ b ∈ ofText text, UInt8.ofNat (Char.ofNat b.toNat).toNat = b := by
      intro b hb
      rw [hnumber _ (h b hb), UInt8.ofNat_toNat]
    rw [ofText_ofList_ascii cs hascii, List.map_map]
    exact (List.map_congr_left hback).trans (List.map_id _)
  rw [← ofText_injective hbytes, String.toList_ofList, ofText_injective hbytes]

end Bytes

namespace Text.Hex

/-! ### Lower case -/

/-- Lower case is taken letter by letter. -/
theorem toList_toLower (text : String) : text.toLower.toList = text.toList.map Char.toLower :=
  String.toList_map

/-- Lower case changes no length. -/
theorem length_toLower (text : String) : text.toLower.length = text.length := String.length_map

/-! ### Digits -/

/-- A digit to base sixteen, in either case. -/
def isDigit (c : Char) : Bool :=
  ('0' ≤ c && c ≤ '9') || ('a' ≤ c && c ≤ 'f') || ('A' ≤ c && c ≤ 'F')

/-- A byte that is a digit. -/
def isDigitByte (b : UInt8) : Bool := isDigit (Char.ofNat b.toNat)

/-- The digits, by their numbers. -/
theorem toNat_of_isDigit {c : Char} (h : isDigit c = true) :
    c.toNat < 103 := by
  have hnumber : ∀ first last : Char, first ≤ c ∧ c ≤ last →
      first.toNat ≤ c.toNat ∧ c.toNat ≤ last.toNat := fun _ _ h => h
  simp only [isDigit, Bool.or_eq_true, Bool.and_eq_true, decide_eq_true_eq] at h
  rcases h with (h | h) | h
  · exact Nat.lt_of_le_of_lt (hnumber _ _ h).2 (by decide)
  · exact Nat.lt_of_le_of_lt (hnumber _ _ h).2 (by decide)
  · exact Nat.lt_of_le_of_lt (hnumber _ _ h).2 (by decide)

/-- The reader knows the digits and nothing else, and takes each for the value that is written as
this digit in lower case. -/
theorem value?_cases (b : UInt8) :
    (isDigitByte b = false ∧ value? b = none)
      ∨ (isDigitByte b = true ∧ ∃ v : UInt8, value? b = some v ∧ v.toNat < 16
        ∧ digit v.toNat = (Char.ofNat b.toNat).toLower) := by
  -- There are 256 bytes to go through.
  have hall : ∀ n < 256, (value? (UInt8.ofNat n)).isSome = isDigit (Char.ofNat n)
      ∧ (value? (UInt8.ofNat n)).all (fun v =>
        v.toNat < 16 && digit v.toNat = (Char.ofNat n).toLower) = true := by decide +kernel
  obtain ⟨hsome, hvalue⟩ := hall b.toNat b.toNat_lt
  rw [UInt8.ofNat_toNat] at hsome hvalue
  unfold isDigitByte
  cases hv : value? b with
  | none =>
      rw [hv] at hsome
      exact .inl ⟨hsome.symm, rfl⟩
  | some v =>
      rw [hv] at hsome hvalue
      simp only [Option.all_some, Bool.and_eq_true, decide_eq_true_eq] at hvalue
      exact .inr ⟨hsome.symm, v, rfl, hvalue⟩

/-- The digits of a byte that is put together from two values. -/
theorem pair_of_halves {high low : UInt8} (hhigh : high.toNat < 16) (hlow : low.toNat < 16) :
    pair (16 * high + low) = [digit high.toNat, digit low.toNat] := by
  have hbyte : (16 * high + low).toNat = 16 * high.toNat + low.toNat := by
    rw [UInt8.toNat_add, UInt8.toNat_mul]
    show (16 * high.toNat % 256 + low.toNat) % 256 = _
    omega
  have hdiv : (16 * high.toNat + low.toNat) / 16 = high.toNat := by omega
  have hmod : (16 * high.toNat + low.toNat) % 16 = low.toNat := by omega
  rw [pair, hbyte, hdiv, hmod]

/-! ### Verdicts on bytes -/

/-- The first byte that is no digit, and where it stands. -/
structure Spoilt (bytes : Bytes) (position : Nat) (byte : UInt8) : Prop where
  before : ∀ b ∈ bytes.take position, isDigitByte b = true
  here : bytes[position]? = some byte
  not_digit : isDigitByte byte = false

section
variable {bytes rest : Bytes} {a b byte : UInt8} {position : Nat}

/-- Bytes that start with no digit are spoilt at the start. -/
theorem Spoilt.of_head (h : isDigitByte b = false) : Spoilt (b :: rest) 0 b :=
  ⟨fun _ hmem => absurd hmem List.not_mem_nil, rfl, h⟩

/-- After a digit, they are spoilt one place further on. -/
theorem Spoilt.cons (h : Spoilt rest position byte) (hb : isDigitByte b = true) :
    Spoilt (b :: rest) (position + 1) byte := by
  refine ⟨?_, h.here, h.not_digit⟩
  rw [List.take_succ_cons]
  exact List.forall_mem_cons.mpr ⟨hb, h.before⟩

/-- The first byte is the one, or it is a digit and the one comes later. -/
theorem Spoilt.cases (h : Spoilt (b :: rest) position byte) :
    (position = 0 ∧ byte = b ∧ isDigitByte b = false)
      ∨ ∃ later, position = later + 1 ∧ isDigitByte b = true ∧ Spoilt rest later byte := by
  cases position with
  | zero =>
      have hbyte : byte = b := (Option.some.inj h.here).symm
      exact .inl ⟨rfl, hbyte, hbyte ▸ h.not_digit⟩
  | succ later =>
      have hbefore := h.before
      rw [List.take_succ_cons] at hbefore
      obtain ⟨hb, hrest⟩ := List.forall_mem_cons.mp hbefore
      exact .inr ⟨later, rfl, hb, hrest, h.here, h.not_digit⟩

/-- All bytes are digits, or there is a first one that is none. -/
theorem exists_spoilt (bytes : Bytes) :
    (∀ b ∈ bytes, isDigitByte b = true) ∨ ∃ position byte, Spoilt bytes position byte := by
  induction bytes with
  | nil => exact .inl fun _ h => absurd h List.not_mem_nil
  | cons b rest ih =>
      by_cases hb : isDigitByte b = true
      · rcases ih with hrest | ⟨position, byte, h⟩
        · exact .inl (List.forall_mem_cons.mpr ⟨hb, hrest⟩)
        · exact .inr ⟨position + 1, byte, h.cons hb⟩
      · exact .inr ⟨0, b, .of_head (Bool.eq_false_iff.mpr hb)⟩

/-- A digit has a value, which its lower case spells. -/
theorem valueAt_of_digit (h : isDigitByte b = true) (position : Nat) :
    ∃ v : UInt8, valueAt position b = .ok v ∧ v.toNat < 16
      ∧ digit v.toNat = (Char.ofNat b.toNat).toLower := by
  rcases value?_cases b with ⟨hnot, -⟩ | ⟨-, v, hv, hlt, hlower⟩
  · rw [h] at hnot
    cases hnot
  · exact ⟨v, by rw [valueAt, hv], hlt, hlower⟩

/-- Any other byte is blamed, with its place. -/
theorem valueAt_of_not_digit (h : isDigitByte b = false) (position : Nat) :
    valueAt position b = .error (.badDigit b position) := by
  rcases value?_cases b with ⟨-, hnone⟩ | ⟨hdigit, -⟩
  · rw [valueAt, hnone]
  · rw [h] at hdigit
    cases hdigit

/-- Digits are read, and what is read has these digits in lower case. -/
theorem decodePairs_of_digits (heven : bytes.length % 2 = 0)
    (h : ∀ b ∈ bytes, isDigitByte b = true) (position : Nat) :
    ∃ out, decodePairs position bytes = .ok out
      ∧ out.flatMap pair = bytes.map fun b => (Char.ofNat b.toNat).toLower := by
  induction position, bytes using decodePairs.induct with
  | case1 position => exact ⟨[], rfl, rfl⟩
  | case2 position b => cases heven
  | case3 position a b rest ih =>
      obtain ⟨ha, h⟩ := List.forall_mem_cons.mp h
      obtain ⟨hb, hrest⟩ := List.forall_mem_cons.mp h
      have hlength : rest.length % 2 = 0 := by
        simp only [List.length_cons] at heven
        omega
      obtain ⟨high, hhigh, hhighlt, hhighdigit⟩ := valueAt_of_digit ha position
      obtain ⟨low, hlow, hlowlt, hlowdigit⟩ := valueAt_of_digit hb (position + 1)
      obtain ⟨out, hout, hdigits⟩ := ih hlength hrest
      refine ⟨(16 * high + low) :: out, ?_, ?_⟩
      · rw [decodePairs, hhigh, hlow, hout]
        rfl
      · rw [List.flatMap_cons, pair_of_halves hhighlt hlowlt, hhighdigit, hlowdigit, hdigits]
        rfl

/-- The complaint is about the first byte that is no digit. -/
theorem decodePairs_of_spoilt (heven : bytes.length % 2 = 0) {index : Nat}
    (h : Spoilt bytes index byte) (position : Nat) :
    decodePairs position bytes = .error (.badDigit byte (position + index)) := by
  induction position, bytes using decodePairs.induct generalizing index with
  | case1 position => cases h.here
  | case2 position b => cases heven
  | case3 position a b rest ih =>
      have hlength : rest.length % 2 = 0 := by
        simp only [List.length_cons] at heven
        omega
      rcases h.cases with ⟨rfl, rfl, ha⟩ | ⟨index, rfl, ha, h⟩
      · rw [decodePairs, valueAt_of_not_digit ha]
        rfl
      · obtain ⟨high, hhigh, -⟩ := valueAt_of_digit ha position
        rcases h.cases with ⟨rfl, rfl, hb⟩ | ⟨index, rfl, hb, h⟩
        · rw [decodePairs, hhigh, valueAt_of_not_digit hb]
          rfl
        · obtain ⟨low, hlow, -⟩ := valueAt_of_digit hb (position + 1)
          have hplace : position + 2 + index = position + (index + 1 + 1) := by omega
          rw [decodePairs, hhigh, hlow, ih hlength h, hplace]
          rfl

end

/-! ### Verdicts on texts -/

section
variable {text : String} {bytes : Bytes}

/-- A text whose bytes are digits is made of digits. -/
theorem digits_of_bytes (h : ∀ b ∈ Bytes.ofText text, isDigitByte b = true) :
    (∀ c ∈ text.toList, isDigit c = true)
      ∧ text.toList = (Bytes.ofText text).map fun b => Char.ofNat b.toNat := by
  have hascii : ∀ n < 256, isDigit (Char.ofNat n) = true → n < 128 := by decide +kernel
  have htext := Bytes.toList_of_ascii fun b hb => hascii _ b.toNat_lt (h b hb)
  refine ⟨fun c hc => ?_, htext⟩
  rw [htext] at hc
  obtain ⟨b, hb, rfl⟩ := List.mem_map.mp hc
  exact h b hb

/-- The bytes of digits are digits, one for each. -/
theorem bytes_of_digits (h : ∀ c ∈ text.toList, isDigit c = true) :
    (∀ b ∈ Bytes.ofText text, isDigitByte b = true)
      ∧ (Bytes.ofText text).length = text.length := by
  have hbytes := Bytes.ofText_ofList_ascii text.toList fun c hc => by
    have hlt := toNat_of_isDigit (h c hc)
    omega
  rw [String.ofList_toList] at hbytes
  rw [hbytes]
  refine ⟨fun b hb => ?_, by rw [List.length_map, String.length_toList]⟩
  obtain ⟨c, hc, rfl⟩ := List.mem_map.mp hb
  have hlt := toNat_of_isDigit (h c hc)
  have hsize : UInt8.size = 256 := rfl
  rw [isDigitByte, UInt8.toNat_ofNat_of_lt' (by omega), Char.ofNat_toNat]
  exact h c hc

/-- A text with an odd number of bytes is refused before any of them is looked at. -/
theorem decode_of_odd (h : (Bytes.ofText text).length % 2 = 1) :
    decode text = .error .oddLength := by
  rw [decode]
  exact if_pos h

/-- In an even number of bytes, the first that is no digit is blamed. -/
theorem decode_of_spoilt (heven : (Bytes.ofText text).length % 2 = 0) {position : Nat}
    {byte : UInt8} (h : Spoilt (Bytes.ofText text) position byte) :
    decode text = .error (.badDigit byte position) := by
  have hpairs := decodePairs_of_spoilt heven h 0
  rw [Nat.zero_add] at hpairs
  rw [decode]
  exact (if_neg (by omega)).trans hpairs

/-- An even number of digits is read, and written back in lower case. -/
theorem decode_of_digits (heven : (Bytes.ofText text).length % 2 = 0)
    (h : ∀ b ∈ Bytes.ofText text, isDigitByte b = true) :
    ∃ bytes, decode text = .ok bytes ∧ encode bytes = text.toLower := by
  obtain ⟨out, hout, hdigits⟩ := decodePairs_of_digits heven h 0
  refine ⟨out, ?_, ?_⟩
  · rw [decode]
    exact (if_neg (by omega)).trans hout
  · apply String.toList_inj.mp
    rw [encode, hdigits, String.toList_ofList, toList_toLower, (digits_of_bytes h).2, List.map_map]
    rfl

/-- Two digits for each byte. -/
theorem length_encode (bytes : Bytes) : (encode bytes).length = 2 * bytes.length := by
  rw [encode, String.length_ofList, length_pairs]

/-- A text gives the bytes whose digits it has, in either case. -/
theorem decode_eq_ok_iff :
    decode text = .ok bytes
      ↔ (∀ c ∈ text.toList, isDigit c = true) ∧ encode bytes = text.toLower := by
  constructor
  · intro h
    have heven : (Bytes.ofText text).length % 2 = 0 := by
      rcases Nat.mod_two_eq_zero_or_one (Bytes.ofText text).length with heven | hodd
      · exact heven
      · rw [decode_of_odd hodd] at h
        cases h
    rcases exists_spoilt (Bytes.ofText text) with hdigits | ⟨position, byte, hspoilt⟩
    · obtain ⟨out, hout, hlower⟩ := decode_of_digits heven hdigits
      rw [h] at hout
      cases hout
      exact ⟨(digits_of_bytes hdigits).1, hlower⟩
    · rw [decode_of_spoilt heven hspoilt] at h
      cases h
  · rintro ⟨hdigits, hlower⟩
    obtain ⟨hbytes, hlength⟩ := bytes_of_digits hdigits
    have heven : (Bytes.ofText text).length % 2 = 0 := by
      have htwice := length_encode bytes
      rw [hlower, length_toLower] at htwice
      omega
    obtain ⟨out, hout, hlower'⟩ := decode_of_digits heven hbytes
    -- Both have the same digits, so they are the same bytes.
    have hsame : decode (encode out) = decode (encode bytes) := by rw [hlower', hlower]
    rw [decode_encode, decode_encode] at hsame
    rw [hout, hsame]

/-- Two digits are read for each byte. -/
theorem length_of_decode (h : decode text = .ok bytes) :
    text.length = 2 * bytes.length ∧ (Bytes.ofText text).length = 2 * bytes.length := by
  obtain ⟨hdigits, hlower⟩ := decode_eq_ok_iff.mp h
  have htwice := length_encode bytes
  rw [hlower, length_toLower] at htwice
  exact ⟨htwice, (bytes_of_digits hdigits).2.trans htwice⟩

/-- A block is given by twice as many digits. -/
theorem exists_block_iff (n : Nat) :
    (∃ block : Block n, decode text = .ok block.bytes)
      ↔ text.length = 2 * n ∧ ∀ c ∈ text.toList, isDigit c = true := by
  constructor
  · rintro ⟨block, h⟩
    have hlength := (length_of_decode h).1
    rw [Block.length_bytes] at hlength
    exact ⟨hlength, (decode_eq_ok_iff.mp h).1⟩
  · rintro ⟨hlength, hdigits⟩
    obtain ⟨hbytes, hsame⟩ := bytes_of_digits hdigits
    obtain ⟨out, hout, -⟩ := decode_of_digits (by omega) hbytes
    have htwice := (length_of_decode hout).1
    have hn : out.length = n := by omega
    refine ⟨⟨out.toArray, hn⟩, ?_⟩
    rw [hout]
    simp [Block.bytes]

end

end Text.Hex

end Custody
