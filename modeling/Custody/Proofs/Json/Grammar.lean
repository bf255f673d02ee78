import Custody.Json.Token

/-!
# `Custody.Proofs.Json.Grammar`: which texts write a value

The grammar of JSON, told without a machine. A value is a row of tokens (`Value.tokens`), a
token is spelled by characters (`Token.SpelledBy`), and a text is the spellings of its tokens
with blanks before, between and after them (`Lexes`). `IsTextOf value text` puts these together;
a text that it does not relate to any value is no JSON.

The compact text of a value is one of its texts (`isTextOf_compact`).

## What is borrowed from the scanner

Tables only: which characters are blanks, which letters and digits an escape may have, and how
code units pair up to characters. In what order things may follow each other is said here.
-/

set_option autoImplicit false

namespace Custody.Json

/-! ### Numbers -/

/-- One more digit after digits. -/
theorem isDigit_concat {cs : List Char} {c : Char} (h : ∀ d ∈ cs, d.isDigit = true)
    (hc : c.isDigit = true) : ∀ d ∈ cs ++ [c], d.isDigit = true := by
  intro d hd
  rcases List.mem_append.mp hd with hd | hd
  · exact h d hd
  · rwa [List.mem_singleton.mp hd]

/-- One decimal digit or more. -/
structure IsDigits (cs : List Char) : Prop where
  nonempty : cs ≠ []
  digit : ∀ c ∈ cs, c.isDigit = true

/-- A digit by itself. -/
theorem IsDigits.of_isDigit {c : Char} (h : c.isDigit = true) : IsDigits [c] :=
  ⟨List.cons_ne_nil _ _, by simpa using h⟩

/-- One more digit at the end. -/
theorem IsDigits.concat {cs : List Char} {c : Char} (h : IsDigits cs) (hc : c.isDigit = true) :
    IsDigits (cs ++ [c]) :=
  ⟨by simp, isDigit_concat h.digit hc⟩

/-- The digits of a natural number. A zero in front stands alone. -/
inductive IsNatural : List Char → Prop where
  | zero : IsNatural ['0']
  | digits {c : Char} {cs : List Char} (first : c.isDigit = true) (nonzero : c ≠ '0')
      (rest : ∀ d ∈ cs, d.isDigit = true) : IsNatural (c :: cs)

/-- A natural number, with or without a minus sign. -/
inductive IsInteger : List Char → Prop where
  | natural {cs : List Char} (natural : IsNatural cs) : IsInteger cs
  | negative {cs : List Char} (natural : IsNatural cs) : IsInteger ('-' :: cs)

/-- What may stand before an exponent. -/
inductive IsMantissa : List Char → Prop where
  | integer {cs : List Char} (integer : IsInteger cs) : IsMantissa cs
  | fraction {cs ds : List Char} (integer : IsInteger cs) (digits : IsDigits ds) :
      IsMantissa (cs ++ '.' :: ds)

/-- The letter of an exponent and the sign that it may have. -/
inductive OpensExponent : List Char → Prop where
  | unsigned {c : Char} (letter : c = 'e' ∨ c = 'E') : OpensExponent [c]
  | signed {c d : Char} (letter : c = 'e' ∨ c = 'E') (sign : d = '+' ∨ d = '-') :
      OpensExponent [c, d]

/-- A number that is not written as a natural one. -/
inductive IsOtherNumber : List Char → Prop where
  | negative {cs : List Char} (natural : IsNatural cs) : IsOtherNumber ('-' :: cs)
  | fraction {cs ds : List Char} (integer : IsInteger cs) (digits : IsDigits ds) :
      IsOtherNumber (cs ++ '.' :: ds)
  | exponent {cs es ds : List Char} (mantissa : IsMantissa cs) (opens : OpensExponent es)
      (digits : IsDigits ds) : IsOtherNumber (cs ++ (es ++ ds))

/-- A number is not written with nothing. -/
theorem IsOtherNumber.ne_nil {cs : List Char} (h : IsOtherNumber cs) : cs ≠ [] := by
  cases h with
  | negative => simp
  | fraction => simp
  | exponent _ _ hdigits => simp [hdigits.nonempty]

/-! ### Strings -/

/-- The number that digits of base sixteen go on to after others of value `n`. -/
def hexFrom? (n : Nat) : List Char → Option Nat
  | [] => some n
  | c :: cs => (Scanner.hexValue? c).bind fun v => hexFrom? (16 * n + v) cs

/-- One more digit of base sixteen at the end. -/
theorem hexFrom?_concat (cs : List Char) (c : Char) (n : Nat) :
    hexFrom? n (cs ++ [c])
      = (hexFrom? n cs).bind fun m => (Scanner.hexValue? c).map fun v => 16 * m + v := by
  induction cs generalizing n with
  | nil =>
      rw [List.nil_append, hexFrom?, hexFrom?, Option.bind_some]
      cases Scanner.hexValue? c <;> rfl
  | cons d cs ih =>
      rw [List.cons_append, hexFrom?, hexFrom?]
      cases Scanner.hexValue? d with
      | none => rfl
      | some v => exact ih _

/-- How one code unit may stand inside a string: as the character it is, by a letter after a
backslash, or by number. A character that stands as it is counts as one unit, also where it
takes two. -/
inductive UnitSpelledBy : Nat → List Char → Prop where
  | plain {c : Char} (not_quote : c ≠ '"') (not_backslash : c ≠ '\\')
      (not_control : 32 ≤ c.toNat) : UnitSpelledBy c.toNat [c]
  | letter {c : Char} {unit : Nat} (escapes : Scanner.letterEscape? c = some unit) :
      UnitSpelledBy unit ['\\', c]
  | number {cs : List Char} {unit : Nat} (length : cs.length = 4)
      (value : hexFrom? 0 cs = some unit) : UnitSpelledBy unit ('\\' :: 'u' :: cs)

/-- How the code units of a string stand between its quotes. -/
inductive UnitsSpelledBy : List Nat → List Char → Prop where
  | nil : UnitsSpelledBy [] []
  | cons {unit : Nat} {units : List Nat} {front cs : List Char} (first : UnitSpelledBy unit front)
      (rest : UnitsSpelledBy units cs) : UnitsSpelledBy (unit :: units) (front ++ cs)

/-! ### Tokens and texts -/

/-- How a token may be written. -/
inductive Token.SpelledBy : Token → List Char → Prop where
  | openBracket : Token.SpelledBy .openBracket ['[']
  | closeBracket : Token.SpelledBy .closeBracket [']']
  | openBrace : Token.SpelledBy .openBrace ['\x7b']
  | closeBrace : Token.SpelledBy .closeBrace ['\x7d']
  | comma : Token.SpelledBy .comma [',']
  | colon : Token.SpelledBy .colon [':']
  | null : Token.SpelledBy .null ['n', 'u', 'l', 'l']
  | yes : Token.SpelledBy (.bool true) ['t', 'r', 'u', 'e']
  | no : Token.SpelledBy (.bool false) ['f', 'a', 'l', 's', 'e']
  | nat {cs : List Char} (natural : IsNatural cs) :
      Token.SpelledBy (.nat (Nat.ofDigitChars 10 cs 0)) cs
  | otherNumber {cs : List Char} (other : IsOtherNumber cs) : Token.SpelledBy .otherNumber cs
  | string {units : List Nat} {cs : List Char} (spelled : UnitsSpelledBy units cs) :
      Token.SpelledBy (Token.ofUnits units) ('"' :: (cs ++ ['"']))

/-- The characters write these tokens, one after the other, with blanks wherever between them. -/
inductive Lexes : List Char → List Token → Prop where
  | nil : Lexes [] []
  | blank {c : Char} {cs : List Char} {tokens : List Token} (blank : Scanner.isSpace c = true)
      (rest : Lexes cs tokens) : Lexes (c :: cs) tokens
  | token {token : Token} {front cs : List Char} {tokens : List Token}
      (spelled : token.SpelledBy front) (rest : Lexes cs tokens) :
      Lexes (front ++ cs) (token :: tokens)

mutual

/-- The tokens of a value. -/
def Value.tokens : Value → List Token
  | .null => [.null]
  | .bool b => [.bool b]
  | .nat n => [.nat n]
  | .otherNumber => [.otherNumber]
  | .string s => [.string s]
  | .array items => .openBracket :: itemTokens items
  | .object members => .openBrace :: memberTokens members

/-- The tokens of the items of an array, up to its closing bracket. -/
def Value.itemTokens : List Value → List Token
  | [] => [.closeBracket]
  | [item] => item.tokens ++ [.closeBracket]
  | item :: rest => item.tokens ++ .comma :: Value.itemTokens rest

/-- The tokens of the members of an object, up to its closing brace. -/
def Value.memberTokens : List (Spelled × Value) → List Token
  | [] => [.closeBrace]
  | [(key, value)] => .string key :: .colon :: (value.tokens ++ [.closeBrace])
  | (key, value) :: rest =>
    .string key :: .colon :: (value.tokens ++ .comma :: Value.memberTokens rest)

end

/-- The text is JSON and its value is this one. -/
def IsTextOf (value : Value) (text : String) : Prop := Lexes text.toList value.tokens

/-! ### Putting texts together -/

namespace Lexes

/-- Two texts in a row write the tokens of both. -/
theorem append {cs ds : List Char} {tokens more : List Token} (h : Lexes cs tokens)
    (hmore : Lexes ds more) : Lexes (cs ++ ds) (tokens ++ more) := by
  induction h with
  | nil => exact hmore
  | blank hblank _ ih => exact .blank hblank ih
  | token hspelled _ ih =>
      rw [List.append_assoc, List.cons_append]
      exact .token hspelled ih

/-- The spelling of a token writes that token. -/
theorem of_spelledBy {token : Token} {cs : List Char} (h : token.SpelledBy cs) :
    Lexes cs [token] := by
  have := Lexes.token h .nil
  rwa [List.append_nil] at this

/-- One more token may be written at the end. -/
theorem concat {cs front : List Char} {tokens : List Token} {token : Token}
    (h : Lexes cs tokens) (hspelled : token.SpelledBy front) :
    Lexes (cs ++ front) (tokens ++ [token]) :=
  h.append (of_spelledBy hspelled)

end Lexes

namespace UnitsSpelledBy

/-- Units in a row are spelled one after the other. -/
theorem append {units more : List Nat} {cs ds : List Char} (h : UnitsSpelledBy units cs)
    (hmore : UnitsSpelledBy more ds) : UnitsSpelledBy (units ++ more) (cs ++ ds) := by
  induction h with
  | nil => exact hmore
  | cons hfirst _ ih =>
      rw [List.append_assoc, List.cons_append]
      exact .cons hfirst ih

/-- One more unit may be spelled at the end. -/
theorem concat {units : List Nat} {cs front : List Char} {unit : Nat}
    (h : UnitsSpelledBy units cs) (hunit : UnitSpelledBy unit front) :
    UnitsSpelledBy (units ++ [unit]) (cs ++ front) := by
  have hlast := UnitsSpelledBy.cons hunit .nil
  rw [List.append_nil] at hlast
  exact h.append hlast

end UnitsSpelledBy

/-! ### The compact text -/

/-- The first digit of a number is zero only in zero itself. -/
theorem toDigits_eq_cons (n : Nat) (hn : n ≠ 0) :
    ∃ c cs, Nat.toDigits 10 n = c :: cs ∧ c ≠ '0' := by
  induction n using Nat.strongRecOn with
  | ind n ih =>
      rcases Nat.lt_or_ge n 10 with hlt | hge
      · refine ⟨n.digitChar, [], Nat.toDigits_of_lt_base hlt, ?_⟩
        -- One digit is left, the first: it is the number itself.
        have all : ∀ m < 10, m ≠ 0 → m.digitChar ≠ '0' := by decide
        exact all n hlt hn
      · obtain ⟨c, cs, hdigits, hc⟩ := ih (n / 10) (by omega) (by omega)
        refine ⟨c, cs ++ [(n % 10).digitChar], ?_, hc⟩
        rw [Nat.toDigits_of_base_le (by decide) hge, hdigits, List.cons_append]

/-- The digits of a number spell that number. -/
theorem spelledBy_digits (n : Nat) : Token.SpelledBy (.nat n) (Value.digits n) := by
  have hnatural : IsNatural (Value.digits n) := by
    unfold Value.digits
    by_cases hn : n = 0
    · subst hn
      exact .zero
    · obtain ⟨c, cs, hdigits, hc⟩ := toDigits_eq_cons n hn
      have hall : ∀ d ∈ c :: cs, d.isDigit = true := by
        rw [← hdigits]
        exact fun d hd => Nat.isDigit_of_mem_toDigits (by decide) (by decide) hd
      rw [hdigits]
      exact .digits (hall c List.mem_cons_self) hc fun d hd => hall d (List.mem_cons_of_mem _ hd)
  have hspelled := Token.SpelledBy.nat hnatural
  rwa [Value.digits, Nat.ofDigitChars_ten_toDigits] at hspelled

/-- A digit of base sixteen has the value that it was written for. -/
theorem hexValue?_hexDigit (n : Nat) (h : n < 16) :
    Scanner.hexValue? (Value.hexDigit n) = some n := by
  have all : ∀ m < 16, Scanner.hexValue? (Value.hexDigit m) = some m := by decide
  exact all n h

/-- An escaped character spells the character. -/
theorem unitSpelledBy_escape (c : Char) : UnitSpelledBy c.toNat (Value.escape c) := by
  unfold Value.escape
  split
  · rename_i h
    rcases Bool.or_eq_true_iff.mp h with h | h <;> rw [of_decide_eq_true h]
    · exact .letter rfl
    · exact .letter rfl
  split
  · rename_i h; subst h; exact .letter rfl
  split
  · rename_i h; subst h; exact .letter rfl
  split
  · rename_i h; subst h; exact .letter rfl
  split
  · rename_i h; rw [h]; exact .letter rfl
  split
  · rename_i h; rw [h]; exact .letter rfl
  split
  · -- A control character without a letter of its own is written by number.
    rename_i h
    have hzero : Scanner.hexValue? '0' = some 0 := by decide
    have hhigh := hexValue?_hexDigit (c.toNat / 16) (by omega)
    have hlow := hexValue?_hexDigit (c.toNat % 16) (by omega)
    refine .number rfl ?_
    simp only [hexFrom?, hzero, hhigh, hlow, Option.bind_some, Option.some.injEq]
    omega
  · rename_i hquote hcr hlf htab hback hfeed hcontrol
    simp only [Bool.or_eq_true, decide_eq_true_eq, not_or] at hquote
    exact .plain hquote.1 hquote.2 (by omega)

/-- The characters of a string come back from their units: none of them is a surrogate. -/
theorem charsOfUnits_toNat (cs : List Char) : charsOfUnits (cs.map Char.toNat) = some cs := by
  induction cs with
  | nil => rfl
  | cons c cs ih =>
      -- A character is never half of a pair, so its unit stands for itself.
      have hvalid : c.toNat < 0xd800 ∨ 0xdfff < c.toNat := by
        have h := c.valid
        simp only [UInt32.isValidChar, Nat.isValidChar] at h
        have hval : c.val.toNat = c.toNat := rfl
        omega
      rw [List.map_cons, charsOfUnits.eq_def]
      simp only
      rw [if_neg (by omega), if_neg (by omega), ih, Option.map_some, Char.ofNat_toNat]

/-- A string between quotes is spelled as it is written. -/
theorem spelledBy_renderString (s : Spelled) :
    Token.SpelledBy (.string s) (Value.renderString s) := by
  cases s with
  | none =>
      -- The first half of a pair stands alone.
      have hvalue : hexFrom? 0 ['d', '8', '0', '0'] = some 0xd800 := rfl
      exact .string (.cons (.number rfl hvalue) .nil)
  | some s =>
      have hunits (cs : List Char) :
          UnitsSpelledBy (cs.map Char.toNat) (cs.flatMap Value.escape) := by
        induction cs with
        | nil => exact .nil
        | cons c cs ih => exact .cons (unitSpelledBy_escape c) ih
      have hspelled := Token.SpelledBy.string (hunits s.toList)
      rwa [Token.ofUnits, charsOfUnits_toNat, Option.map_some, String.ofList_toList] at hspelled

mutual

/-- The compact text of a value writes its tokens. -/
theorem Value.lexes_render (value : Value) : Lexes value.render value.tokens := by
  cases value with
  | null => exact .of_spelledBy .null
  | bool b =>
      cases b with
      | true => exact .of_spelledBy .yes
      | false => exact .of_spelledBy .no
  | nat n => exact .of_spelledBy (spelledBy_digits n)
  | otherNumber => exact .of_spelledBy (.otherNumber (.negative .zero))
  | string s => exact .of_spelledBy (spelledBy_renderString s)
  | array items => exact .token .openBracket (Value.lexes_renderItems items)
  | object members => exact .token .openBrace (Value.lexes_renderMembers members)
termination_by sizeOf value

/-- The items of an array are written one after the other. -/
theorem Value.lexes_renderItems (items : List Value) :
    Lexes (Value.renderItems items) (Value.itemTokens items) := by
  match items with
  | [] => exact .of_spelledBy .closeBracket
  | [item] =>
      rw [Value.renderItems, Value.itemTokens]
      exact (Value.lexes_render item).concat .closeBracket
  | item :: next :: rest =>
      rw [Value.renderItems, Value.itemTokens]
      · exact (Value.lexes_render item).append
          (.token .comma (Value.lexes_renderItems (next :: rest)))
      all_goals simp
termination_by sizeOf items

/-- The members of an object are written one after the other. -/
theorem Value.lexes_renderMembers (members : List (Spelled × Value)) :
    Lexes (Value.renderMembers members) (Value.memberTokens members) := by
  match members with
  | [] => exact .of_spelledBy .closeBrace
  | [(key, value)] =>
      rw [Value.renderMembers, Value.memberTokens, List.append_assoc, List.cons_append]
      exact .token (spelledBy_renderString key)
        (.token .colon ((Value.lexes_render value).concat .closeBrace))
  | (key, value) :: next :: rest =>
      rw [Value.renderMembers, Value.memberTokens, List.append_assoc, List.cons_append]
      · exact .token (spelledBy_renderString key) (.token .colon ((Value.lexes_render value).append
          (.token .comma (Value.lexes_renderMembers (next :: rest)))))
      all_goals simp
termination_by sizeOf members

end

/-- The compact text of a value is a text of that value. -/
theorem isTextOf_compact (value : Value) : IsTextOf value value.compact := by
  rw [IsTextOf, Value.compact, String.toList_ofList]
  exact value.lexes_render

end Custody.Json
