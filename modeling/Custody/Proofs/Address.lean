import Custody.Error
import Custody.Proofs.Text.Blank
import Custody.Proofs.Text.Hex.Digits

/-!
# `Custody.Proofs.Address`: typed addresses

`Spells` is the grammar of a typed address: blanks, perhaps a marker `0x` or `0X`, 64 digits, and
blanks again. `Parts` says of any typed text what is between its blanks and what is behind its
marker. Every text has its parts and has them in one way only (`parts_of_typed`, `Parts.unique`),
and `parse` reads the digits behind the marker (`Parts.parse_eq_ok_iff`). So what the reader of
digits says of them (`Custody.Proofs.Text.Hex.Digits`) is what is said of the text:
`typed_address_is_its_digits`.
-/

set_option autoImplicit false

namespace Custody.Address

open Text

/-- The markers in front of digits. -/
def markers : List (List Char) := [['0', 'x'], ['0', 'X']]

/-- The text is an address with these digits. -/
structure Spells (typed : String) (digits : List Char) : Prop where
  around : ∃ front marker back, typed.toList = front ++ (marker ++ digits) ++ back
    ∧ (marker = [] ∨ marker ∈ markers)
    ∧ (∀ c ∈ front, isBlank c = true) ∧ ∀ c ∈ back, isBlank c = true
  length : digits.length = 64
  digits : ∀ c ∈ digits, Hex.isDigit c = true

/-- What is left of a text without the blanks around it, and of that without one marker. -/
structure Parts (typed : String) (trimmed rest : List Char) : Prop where
  around : ∃ front back, typed.toList = front ++ trimmed ++ back
    ∧ (∀ c ∈ front, isBlank c = true) ∧ ∀ c ∈ back, isBlank c = true
  first : ∀ c ∈ trimmed.head?, isBlank c = false
  last : ∀ c ∈ trimmed.getLast?, isBlank c = false
  marker : (∃ marker ∈ markers, trimmed = marker ++ rest)
    ∨ (trimmed = rest ∧ ∀ marker ∈ markers, ¬ marker <+: trimmed)

variable {typed : String} {trimmed rest digits : List Char}

/-! ### Markers -/

/-- A marker is taken off, and nothing else is. -/
theorem stripMarker_cases (cs : List Char) :
    (∃ marker ∈ markers, cs = marker ++ stripMarker cs)
      ∨ (cs = stripMarker cs ∧ ∀ marker ∈ markers, ¬ marker <+: cs) := by
  unfold stripMarker
  split
  · exact .inl ⟨['0', 'x'], by decide, rfl⟩
  · exact .inl ⟨['0', 'X'], by decide, rfl⟩
  · rename_i hlower hupper
    refine .inr ⟨rfl, fun marker hmarker hfront => ?_⟩
    obtain ⟨rest, rfl⟩ := hfront
    simp only [markers, List.mem_cons, List.not_mem_nil, or_false] at hmarker
    rcases hmarker with rfl | rfl
    · exact hlower rest rfl
    · exact hupper rest rfl

/-- A marker in front is removed, with nothing of what follows it. -/
theorem stripMarker_append {marker : List Char} (h : marker ∈ markers) (rest : List Char) :
    stripMarker (marker ++ rest) = rest := by
  simp only [markers, List.mem_cons, List.not_mem_nil, or_false] at h
  rcases h with rfl | rfl <;> rfl

/-- Digits do not begin with a marker. -/
theorem not_marker_of_digits (h : ∀ c ∈ digits, Hex.isDigit c = true) :
    ∀ marker ∈ markers, ¬ marker <+: digits := by
  have hletter : ∀ marker ∈ markers, marker.all Hex.isDigit = false := by decide
  intro marker hmarker hfront
  have hdigits := List.all_eq_true.mpr fun c hc => h c (hfront.mem hc)
  rw [hletter marker hmarker] at hdigits
  cases hdigits

/-! ### The parts of a text -/

/-- Every text has its parts. -/
theorem parts_of_typed (typed : String) :
    Parts typed (trimChars typed.toList) (stripMarker (trimChars typed.toList)) :=
  ⟨exists_trimChars typed.toList, (ends_trimChars typed.toList).1, (ends_trimChars typed.toList).2,
    stripMarker_cases _⟩

/-- It has no others. -/
theorem Parts.unique (h : Parts typed trimmed rest) :
    trimmed = trimChars typed.toList ∧ rest = stripMarker trimmed := by
  constructor
  · obtain ⟨front, back, htyped, hfront, hback⟩ := h.around
    rw [htyped, trimChars_append hfront hback h.first h.last]
  · rcases h.marker with ⟨marker, hmarker, htrimmed⟩ | ⟨htrimmed, hnone⟩
    · rw [htrimmed, stripMarker_append hmarker]
    · rcases stripMarker_cases trimmed with ⟨marker, hmarker, hstrip⟩ | ⟨hstrip, -⟩
      · exact absurd ⟨_, hstrip.symm⟩ (hnone marker hmarker)
      · rw [← hstrip, htrimmed]

/-- No digit is a blank. -/
theorem isBlank_of_isDigit {c : Char} (h : Hex.isDigit c = true) : isBlank c = false :=
  of_number (P := fun c => Hex.isDigit c = true → isBlank c = false) (by decide +kernel)
    (Hex.toNat_of_isDigit h) h

/-- The digits of an address are what is behind its marker. -/
theorem Spells.parts (h : Spells typed digits) : ∃ trimmed, Parts typed trimmed digits := by
  obtain ⟨front, marker, back, htyped, hmarker, hfront, hback⟩ := h.around
  have hmarks : ∀ marker ∈ markers, marker.any isBlank = false := by decide
  have hsolid : ∀ c ∈ marker ++ digits, isBlank c = false := by
    intro c hc
    cases List.mem_append.mp hc with
    | inl hc =>
        rcases hmarker with rfl | hmarker
        · cases hc
        · exact Bool.eq_false_iff.mpr (List.any_eq_false.mp (hmarks marker hmarker) c hc)
    | inr hc => exact isBlank_of_isDigit (h.digits c hc)
  refine ⟨marker ++ digits, ⟨front, back, htyped, hfront, hback⟩,
    fun c hc => hsolid c (List.mem_of_mem_head? hc),
    fun c hc => hsolid c (List.mem_of_mem_getLast? hc), ?_⟩
  rcases hmarker with rfl | hmarker
  · exact .inr ⟨rfl, not_marker_of_digits h.digits⟩
  · exact .inl ⟨marker, hmarker, rfl⟩

/-- A text with 64 digits behind its marker is an address. -/
theorem Parts.spells (h : Parts typed trimmed digits) (hlength : digits.length = 64)
    (hdigits : ∀ c ∈ digits, Hex.isDigit c = true) : Spells typed digits := by
  obtain ⟨front, back, htyped, hfront, hback⟩ := h.around
  refine ⟨?_, hlength, hdigits⟩
  rcases h.marker with ⟨marker, hmarker, rfl⟩ | ⟨rfl, -⟩
  · exact ⟨front, marker, back, htyped, .inr hmarker, hfront, hback⟩
  · exact ⟨front, [], back, htyped, .inl rfl, hfront, hback⟩

/-! ### Verdicts -/

/-- The digits behind the marker are what is read. -/
theorem Parts.parse_of_error (h : Parts typed trimmed rest) {reason : Hex.DecodeError}
    (hread : Hex.decode (String.ofList rest) = .error reason) :
    parse typed = .error (.notHex (String.ofList trimmed) reason) := by
  obtain ⟨rfl, rfl⟩ := h.unique
  simp only [parse, hread]

/-- Digits of another number of bytes are refused by that number. -/
theorem Parts.parse_of_length_ne (h : Parts typed trimmed rest) {bytes : Bytes}
    (hread : Hex.decode (String.ofList rest) = .ok bytes) (hne : bytes.length ≠ 32) :
    parse typed = .error (.length bytes.length) := by
  obtain ⟨rfl, rfl⟩ := h.unique
  simp only [parse, hread, Bytes.toBlock?_eq_none_iff.mpr hne]

/-- Digits of 32 bytes are the key with these bytes. -/
theorem Parts.parse_of_block (h : Parts typed trimmed rest) {block : Block 32}
    (hread : Hex.decode (String.ofList rest) = .ok block.bytes) : parse typed = .ok ⟨block⟩ := by
  obtain ⟨rfl, rfl⟩ := h.unique
  simp only [parse, hread, Bytes.toBlock?_bytes]

/-- The key that is read is the one whose bytes the digits spell. -/
theorem Parts.parse_eq_ok_iff (h : Parts typed trimmed rest) {key : PublicKey} :
    parse typed = .ok key ↔ Hex.decode (String.ofList rest) = .ok key.bytes.bytes := by
  refine ⟨fun hparse => ?_, h.parse_of_block⟩
  cases hread : Hex.decode (String.ofList rest) with
  | error reason =>
      rw [h.parse_of_error hread] at hparse
      cases hparse
  | ok bytes =>
      cases hblock : bytes.toBlock? 32 with
      | none =>
          rw [h.parse_of_length_ne hread (Bytes.toBlock?_eq_none_iff.mp hblock)] at hparse
          cases hparse
      | some block =>
          have hbytes := Bytes.bytes_of_toBlock? hblock
          rw [← hbytes] at hread
          rw [h.parse_of_block hread] at hparse
          cases hparse
          rw [hbytes]

/-- An address gives the key with its digits in lower case. -/
theorem Spells.parse_eq_ok_iff (h : Spells typed digits) {key : PublicKey} :
    parse typed = .ok key ↔ key.toHex = String.ofList (digits.map Char.toLower) := by
  obtain ⟨trimmed, hparts⟩ := h.parts
  have hlower : (String.ofList digits).toLower = String.ofList (digits.map Char.toLower) := by
    apply String.toList_inj.mp
    rw [Hex.toList_toLower, String.toList_ofList, String.toList_ofList]
  rw [hparts.parse_eq_ok_iff, Hex.decode_eq_ok_iff, hlower, String.toList_ofList]
  exact and_iff_right h.digits

/-- A text reads as some key if it spells an address. -/
theorem exists_parse_iff :
    (∃ key, parse typed = .ok key) ↔ ∃ digits, Spells typed digits := by
  constructor
  · rintro ⟨key, h⟩
    have hparts := parts_of_typed typed
    obtain ⟨hlength, hdigits⟩ :=
      (Hex.exists_block_iff 32).mp ⟨key.bytes, hparts.parse_eq_ok_iff.mp h⟩
    rw [String.length_ofList] at hlength
    rw [String.toList_ofList] at hdigits
    exact ⟨_, hparts.spells hlength hdigits⟩
  · rintro ⟨digits, h⟩
    obtain ⟨trimmed, hparts⟩ := h.parts
    have hlength : (String.ofList digits).length = 2 * 32 := by
      rw [String.length_ofList, h.length]
    have hdigits : ∀ c ∈ (String.ofList digits).toList, Hex.isDigit c = true := by
      rw [String.toList_ofList]
      exact h.digits
    obtain ⟨block, hblock⟩ := (Hex.exists_block_iff 32).mpr ⟨hlength, hdigits⟩
    exact ⟨⟨block⟩, hparts.parse_eq_ok_iff.mpr hblock⟩

/-- What is said of a text that is no address, by the text without its blanks and the bytes behind
its marker. -/
inductive Refused (trimmed : String) (bytes : Bytes) : WalletError → Prop where
  | odd (h : bytes.length % 2 = 1) :
    Refused trimmed bytes (.invalidAddress (trimmed ++ ": " ++ "Odd number of digits"))
  | spoilt {position : Nat} {byte : UInt8} (heven : bytes.length % 2 = 0)
      (h : Hex.Spoilt bytes position byte) :
    Refused trimmed bytes (.invalidAddress (trimmed ++ ": " ++ ("Invalid character "
      ++ quoteChar (Char.ofNat byte.toNat) ++ " at position " ++ toString position)))
  | length (heven : bytes.length % 2 = 0) (hdigits : ∀ b ∈ bytes, Hex.isDigitByte b = true)
      (h : bytes.length ≠ 64) :
    Refused trimmed bytes (.fieldLength ⟨.receiver, 32, bytes.length / 2⟩)

/-- What is due is said. -/
theorem Parts.told (h : Parts typed trimmed rest) {e : WalletError}
    (hrefused : Refused (String.ofList trimmed) (Bytes.ofText (String.ofList rest)) e) :
    (parse typed).mapError WalletError.ofAddress = .error e := by
  cases hrefused with
  | odd hodd =>
      rw [h.parse_of_error (Hex.decode_of_odd hodd)]
      rfl
  | spoilt heven hspoilt =>
      rw [h.parse_of_error (Hex.decode_of_spoilt heven hspoilt)]
      rfl
  | length heven hdigits hne =>
      obtain ⟨out, hout, -⟩ := Hex.decode_of_digits heven hdigits
      have htwice := (Hex.length_of_decode hout).2
      have hhalf : out.length = (Bytes.ofText (String.ofList rest)).length / 2 := by omega
      rw [h.parse_of_length_ne hout (by omega), ← hhalf]
      rfl

/-- A text that nothing is said of is an address. -/
theorem Parts.spells_or_refused (h : Parts typed trimmed rest) :
    Spells typed rest
      ∨ ∃ e, Refused (String.ofList trimmed) (Bytes.ofText (String.ofList rest)) e := by
  rcases Nat.mod_two_eq_zero_or_one (Bytes.ofText (String.ofList rest)).length with heven | hodd
  · rcases Hex.exists_spoilt (Bytes.ofText (String.ofList rest)) with
      hdigits | ⟨position, byte, hspoilt⟩
    · by_cases hlength : (Bytes.ofText (String.ofList rest)).length = 64
      · have hchars := (Hex.digits_of_bytes hdigits).1
        have hsame := (Hex.bytes_of_digits hchars).2
        rw [String.toList_ofList] at hchars
        rw [String.length_ofList] at hsame
        exact .inl (h.spells (hsame.symm.trans hlength) hchars)
      · exact .inr ⟨_, .length heven hdigits hlength⟩
    · exact .inr ⟨_, .spoilt heven hspoilt⟩
  · exact .inr ⟨_, .odd hodd⟩

/-- Nothing else is said. -/
theorem Parts.told_iff (h : Parts typed trimmed rest) {e : WalletError} :
    (parse typed).mapError WalletError.ofAddress = .error e
      ↔ Refused (String.ofList trimmed) (Bytes.ofText (String.ofList rest)) e := by
  refine ⟨fun htold => ?_, h.told⟩
  rcases h.spells_or_refused with hspells | ⟨due, hdue⟩
  · obtain ⟨key, hkey⟩ := exists_parse_iff.mpr ⟨rest, hspells⟩
    rw [hkey] at htold
    cases htold
  · rw [h.told hdue] at htold
    cases htold
    exact hdue

/-! ### Typed addresses -/

/-- Which texts are addresses, and of which keys. A text gives a key just if it is 64 hexadecimal
digits in any case, with or without a marker in front and blanks around, and the key in hexadecimal
is those digits in lower case. So every key is read from its own address, a point of the curve or
not, and two texts give one key only if their digits agree up to case. Every text has its parts, and
what is refused is told by them: an odd number of bytes behind the marker first, then the first byte
that is no digit, with its position there, and then the number of bytes that the digits make. -/
theorem typed_address_is_its_digits :
    (∀ typed, (∃ key, parse typed = .ok key) ↔ ∃ digits, Spells typed digits)
      ∧ (∀ typed digits key, Spells typed digits →
        (parse typed = .ok key ↔ key.toHex = String.ofList (digits.map Char.toLower)))
      ∧ (∀ key, parse (format key) = .ok key)
      ∧ (∀ typed other digits others key key', Spells typed digits → Spells other others →
        parse typed = .ok key → parse other = .ok key' →
        (key = key' ↔ digits.map Char.toLower = others.map Char.toLower))
      ∧ (∀ typed, ∃ trimmed rest, Parts typed trimmed rest)
      ∧ ∀ typed trimmed rest e, Parts typed trimmed rest →
        ((parse typed).mapError WalletError.ofAddress = .error e
          ↔ Refused (String.ofList trimmed) (Bytes.ofText (String.ofList rest)) e) := by
  refine ⟨fun typed => exists_parse_iff, fun typed digits key h => h.parse_eq_ok_iff, ?_, ?_,
    fun typed => ⟨_, _, parts_of_typed typed⟩, fun typed trimmed rest e h => h.told_iff⟩
  · intro key
    have hdecode : Hex.decode (format key) = .ok key.bytes.bytes := Hex.decode_encode _
    obtain ⟨hlength, hdigits⟩ := (Hex.exists_block_iff 32).mp ⟨key.bytes, hdecode⟩
    have hspells : Spells (format key) (format key).toList :=
      ⟨⟨[], [], [], by simp⟩, hlength, hdigits⟩
    apply hspells.parse_eq_ok_iff.mpr
    apply String.toList_inj.mp
    rw [String.toList_ofList, ← String.toList_map]
    exact congrArg String.toList (Hex.decode_eq_ok_iff.mp hdecode).2
  · intro typed other digits others key key' h h' hkey hkey'
    have hdigits := h.parse_eq_ok_iff.mp hkey
    have hothers := h'.parse_eq_ok_iff.mp hkey'
    constructor
    · rintro rfl
      rw [hdigits] at hothers
      exact String.ofList_inj.mp hothers
    · intro hsame
      -- The first text gives the second key as well.
      have hagain : parse typed = .ok key' := by
        rw [h.parse_eq_ok_iff, hothers, hsame]
      rw [hkey] at hagain
      exact Except.ok.inj hagain

/-- An address with a capital among its digits and a wide blank in front, and the same without
capital, marker and blanks, give one key. A second marker is an `x` among the digits, and a marker
alone has no digits. -/
theorem typed_address_is_its_digits_pasted :
    let digits := 'C' :: List.replicate 63 '5'
    let others := 'c' :: List.replicate 63 '5'
    let pasted := String.ofList (['\u3000', ' '] ++ (['0', 'X'] ++ digits) ++ ['\n'])
    let doubled := String.ofList ('0' :: 'x' :: '0' :: 'x' :: others)
    ∃ key, Spells pasted digits ∧ parse pasted = .ok key ∧ key.toHex = String.ofList others
      ∧ parse (String.ofList others) = .ok key
      ∧ (parse doubled).mapError WalletError.ofAddress
        = .error (.invalidAddress (doubled ++ ": Invalid character 'x' at position 1"))
      ∧ (parse "0x").mapError WalletError.ofAddress = .error (.fieldLength ⟨.receiver, 32, 0⟩) := by
  intro digits others pasted doubled
  obtain ⟨hread, hkey, -, hsame, -, hrefused⟩ := typed_address_is_its_digits
  have hpasted : Spells pasted digits :=
    ⟨⟨_, _, _, String.toList_ofList, .inr (by decide), List.all_eq_true.mp (by decide),
      List.all_eq_true.mp (by decide)⟩, rfl, List.all_eq_true.mp (by decide)⟩
  have hplain : Spells (String.ofList others) others :=
    ⟨⟨[], [], [], by simp⟩, rfl, List.all_eq_true.mp (by decide)⟩
  obtain ⟨key, hparse⟩ := (hread pasted).mpr ⟨digits, hpasted⟩
  obtain ⟨key', hparse'⟩ := (hread (String.ofList others)).mpr ⟨others, hplain⟩
  have hlower : digits.map Char.toLower = others := by decide
  have heq : key = key' :=
    (hsame _ _ _ _ _ _ hpasted hplain hparse hparse').mpr (hlower.trans (by decide))
  have hhex := (hkey _ _ _ hpasted).mp hparse
  rw [hlower] at hhex
  have hbare : Parts "0x" ['0', 'x'] [] :=
    ⟨⟨[], [], by simp⟩, fun _ h => by cases h; rfl, fun _ h => by cases h; rfl,
      .inl ⟨['0', 'x'], by decide, rfl⟩⟩
  refine ⟨key, hpasted, hparse, hhex, heq ▸ hparse', ?_,
    (hrefused _ _ _ _ hbare).mpr (.length (by decide) (List.all_eq_true.mp (by decide))
      (by decide))⟩
  have hdoubled : Parts doubled ('0' :: 'x' :: '0' :: 'x' :: others) ('0' :: 'x' :: others) :=
    ⟨⟨[], [], by simp [doubled]⟩, fun _ h => by cases h; rfl, fun _ h => by cases h; rfl,
      .inl ⟨['0', 'x'], by decide, rfl⟩⟩
  have hall : ('0' :: 'x' :: others).all (fun c => decide (c.toNat < 128)) = true := by decide
  have hascii : ∀ c ∈ '0' :: 'x' :: others, c.toNat < 128 := fun c hc =>
    of_decide_eq_true (List.all_eq_true.mp hall c hc)
  have hbytes := Bytes.ofText_ofList_ascii _ hascii
  have heven : (Bytes.ofText (String.ofList ('0' :: 'x' :: others))).length % 2 = 0 := by
    rw [hbytes]
    decide
  have hspoilt : Hex.Spoilt (Bytes.ofText (String.ofList ('0' :: 'x' :: others))) 1 120 := by
    rw [hbytes]
    exact ⟨List.all_eq_true.mp (by decide), by decide, by decide⟩
  rw [(hrefused _ _ _ _ hdoubled).mpr (.spoilt heven hspoilt), String.append_assoc]
  exact congrArg (fun text => Except.error (WalletError.invalidAddress (doubled ++ text)))
    (by decide +kernel)

end Custody.Address
