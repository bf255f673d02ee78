import Custody.Proofs.Json.Grammar
import Mathlib.Data.List.Chain

/-!
# `Custody.Proofs.Json.Scan`: the scanner finds the tokens that a text writes

`Token.scan_of_lexes`: whatever tokens a text writes, the scanner finds them, if no two of them
in a row are numbers. Of two numbers without a blank between them nobody could say where the
second one starts.

A number has no closing character: the scanner is still inside it when its text is over, and the
next character decides. `Scanner.Settles` covers both endings. It says that the text may end
here, and that a character which cannot go on with the token starts what comes after it.
-/

set_option autoImplicit false

namespace Custody.Json

/-- The character may go on with a number. -/
def goesOn (c : Char) : Bool := c.isDigit || c = '.' || c = 'e' || c = 'E'

/-- A number, of either kind. -/
def Token.isNumber : Token → Bool
  | .nat _ => true
  | .otherNumber => true
  | _ => false

/-- Not both tokens are numbers. -/
def Token.Apart (token next : Token) : Prop := token.isNumber = true → next.isNumber = false

namespace Scanner

/-- The tokens at the end of the text, latest first, from any state on. -/
def tokensFrom (s : Scanner) (done : List Token) (cs : List Char) : Option (List Token) :=
  (run s done cs).bind fun after => after.1.finish after.2

/-- The scanner goes on with what one character has left. -/
theorem tokensFrom_cons (s : Scanner) (done : List Token) (c : Char) (cs : List Char) :
    tokensFrom s done (c :: cs) = (s.step done c).bind fun next => tokensFrom next.1 next.2 cs := by
  rw [tokensFrom, run]
  cases s.step done c <;> rfl

/-- A text in two parts is taken in one part after the other. -/
theorem run_append (s : Scanner) (done : List Token) (xs ys : List Char) :
    run s done (xs ++ ys) = (run s done xs).bind fun next => run next.1 next.2 ys := by
  induction xs generalizing s done with
  | nil => rfl
  | cons x xs ih =>
      rw [List.cons_append, run, run]
      -- Where the step fails, both sides fail.
      cases h : s.step done x with
      | none => rfl
      | some next => exact ih next.1 next.2

/-- In this state the token is complete: the text may end here, and what cannot go on with the
token starts after it. -/
structure Settles (s : Scanner) (done : List Token) (token : Token) (before : List Token) :
    Prop where
  finish : s.finish done = some (token :: before)
  step : ∀ c, (token.isNumber = true → goesOn c = false) →
    s.step done c = start (token :: before) c

/-- Between tokens nothing is pending. -/
theorem settles_between (token : Token) (before : List Token) :
    Settles .between (token :: before) token before :=
  ⟨rfl, fun _ _ => rfl⟩

/-- A word that has come to its end is the only thing pending. -/
theorem settles_word (token : Token) (before : List Token) :
    Settles (.word [] token) before token before :=
  ⟨rfl, fun _ _ => rfl⟩

/-! ### Numbers -/

/-- What does not go on a number is no digit, no point and no exponent. -/
theorem goesOn_eq_false {c : Char} (h : goesOn c = false) :
    c.isDigit = false ∧ c ≠ '.' ∧ c ≠ 'e' ∧ c ≠ 'E' := by
  simpa [goesOn, and_assoc] using h

/-- The scanner has taken in an integer and would take in a point or an exponent. -/
structure HoldsInteger (s : Scanner) (token : Token) : Prop where
  number : token.isNumber = true
  finish : ∀ done, s.finish done = some (token :: done)
  step : ∀ done c, c.isDigit = false → s.step done c = afterInteger token done c

/-- A zero is the number zero so far. -/
theorem holdsInteger_zero : HoldsInteger .zero (.nat 0) :=
  ⟨rfl, fun _ => rfl, fun _ _ h => by simp [step, h]⟩

/-- Digits are the number that they spell so far. -/
theorem holdsInteger_digits (n : Nat) : HoldsInteger (.digits n) (.nat n) :=
  ⟨rfl, fun _ => rfl, fun _ _ h => by simp [step, h]⟩

/-- A zero after a minus is a number of another kind. -/
theorem holdsInteger_minusZero : HoldsInteger .minusZero .otherNumber :=
  ⟨rfl, fun _ => rfl, fun _ _ h => by simp [step, h]⟩

/-- Digits after a minus are a number of another kind. -/
theorem holdsInteger_minusDigits : HoldsInteger .minusDigits .otherNumber :=
  ⟨rfl, fun _ => rfl, fun _ _ h => by simp [step, h]⟩

/-- An integer is complete wherever nothing goes on with it. -/
theorem HoldsInteger.settles {s : Scanner} {token : Token} (h : HoldsInteger s token)
    (before : List Token) : Settles s before token before := by
  refine ⟨h.finish before, fun c hc => ?_⟩
  obtain ⟨hdigit, hpoint, hsmall, hlarge⟩ := goesOn_eq_false (hc h.number)
  simp [h.step before c hdigit, afterInteger, hpoint, hsmall, hlarge]

/-- Digits that do not move the scanner are taken in. -/
theorem run_stays {s : Scanner} {done : List Token}
    (hstays : ∀ c, c.isDigit = true → s.step done c = some (s, done)) {cs : List Char}
    (hcs : ∀ c ∈ cs, c.isDigit = true) : run s done cs = some (s, done) := by
  induction cs with
  | nil => rfl
  | cons c cs ih =>
      rw [run, hstays c (hcs c List.mem_cons_self)]
      exact ih fun d hd => hcs d (List.mem_cons_of_mem _ hd)

/-- Digits after the first one are taken in as one number. -/
theorem run_digits (cs : List Char) (hcs : ∀ c ∈ cs, c.isDigit = true) (n : Nat)
    (done : List Token) :
    run (.digits n) done cs = some (.digits (Nat.ofDigitChars 10 cs n), done) := by
  induction cs generalizing n with
  | nil => rfl
  | cons c cs ih =>
      have hc := hcs c List.mem_cons_self
      rw [run, Nat.ofDigitChars_cons]
      simp only [step, hc, if_true]
      exact ih (fun d hd => hcs d (List.mem_cons_of_mem _ hd)) _

/-- A digit other than zero starts a number. -/
theorem start_digit {c : Char} (hdigit : c.isDigit = true) (hzero : c ≠ '0')
    (done : List Token) : start done c = some (.digits (c.toNat - 48), done) := by
  have hrange : 48 ≤ c.toNat ∧ c.toNat ≤ 57 := by
    simpa [Char.isDigit, UInt32.le_iff_toNat_le] using hdigit
  -- So the character is none of those that `start` asks for before it asks for a digit.
  have hne : ∀ d : Char, d.toNat < 48 ∨ 57 < d.toNat → c ≠ d := by
    rintro d hd rfl
    omega
  simp only [start, isSpace, hne ' ' (by decide), hne '\n' (by decide), hne '\t' (by decide),
    hne '\r' (by decide), hne '[' (by decide), hne ']' (by decide), hne '\x7b' (by decide),
    hne '\x7d' (by decide), hne ',' (by decide), hne ':' (by decide), hne '"' (by decide),
    hne 'n' (by decide), hne 't' (by decide), hne 'f' (by decide), hne '-' (by decide), hzero,
    hdigit, decide_false, Bool.or_self, Bool.false_eq_true, if_false, if_true]

/-- A natural number is taken in as that number. -/
theorem run_natural {cs : List Char} (h : IsNatural cs) (done : List Token) :
    ∃ s, run .between done cs = some (s, done)
      ∧ HoldsInteger s (.nat (Nat.ofDigitChars 10 cs 0)) := by
  cases h with
  | zero => exact ⟨.zero, rfl, holdsInteger_zero⟩
  | @digits c cs hfirst hnonzero hrest =>
      refine ⟨_, ?_, holdsInteger_digits _⟩
      rw [run]
      simp only [step, start_digit hfirst hnonzero, run_digits cs hrest, Nat.ofDigitChars_cons]
      simp

/-- A natural number after a minus sign is taken in. -/
theorem run_negative {cs : List Char} (h : IsNatural cs) (done : List Token) :
    ∃ s, run .between done ('-' :: cs) = some (s, done) ∧ HoldsInteger s .otherNumber := by
  show ∃ s, run .minus done cs = some (s, done) ∧ _
  cases h with
  | zero => exact ⟨.minusZero, rfl, holdsInteger_minusZero⟩
  | @digits c cs hfirst hnonzero hrest =>
      refine ⟨.minusDigits, ?_, holdsInteger_minusDigits⟩
      rw [run]
      simp only [step, hnonzero, if_false, hfirst, if_true]
      exact run_stays (fun d hd => by simp [step, hd]) hrest

/-- An integer is taken in, with a sign or without one. -/
theorem run_integer {cs : List Char} (h : IsInteger cs) (done : List Token) :
    ∃ s token, run .between done cs = some (s, done) ∧ HoldsInteger s token := by
  cases h with
  | natural hnatural =>
      obtain ⟨s, hrun, hholds⟩ := run_natural hnatural done
      exact ⟨s, _, hrun, hholds⟩
  | negative hnatural =>
      obtain ⟨s, hrun, hholds⟩ := run_negative hnatural done
      exact ⟨s, _, hrun, hholds⟩

/-- A first digit leads to a state in which the other digits are taken in. -/
theorem run_isDigits {s next : Scanner} {done : List Token} {ds : List Char} (h : IsDigits ds)
    (hfirst : ∀ c, c.isDigit = true → s.step done c = some (next, done))
    (hstays : ∀ c, c.isDigit = true → next.step done c = some (next, done)) :
    run s done ds = some (next, done) := by
  obtain ⟨hne, hdigit⟩ := h
  cases ds with
  | nil => exact absurd rfl hne
  | cons d ds =>
      rw [run, hfirst d (hdigit d List.mem_cons_self)]
      exact run_stays hstays fun c hc => hdigit c (List.mem_cons_of_mem _ hc)

/-- An integer, a point and digits are taken in. -/
theorem run_fraction {cs ds : List Char} (h : IsInteger cs) (hds : IsDigits ds)
    (done : List Token) : run .between done (cs ++ '.' :: ds) = some (.fraction, done) := by
  obtain ⟨s, token, hrun, hholds⟩ := run_integer h done
  have hpoint : s.step done '.' = some (.point, done) := hholds.step done '.' (by decide)
  rw [run_append, hrun, Option.bind_some, run, hpoint]
  exact run_isDigits hds (fun c hc => by simp [step, hc]) fun c hc => by simp [step, hc]

/-- What may stand before an exponent is taken in, and then the letter of one. -/
theorem run_mantissa {cs : List Char} (h : IsMantissa cs) (done : List Token) :
    ∃ s, run .between done cs = some (s, done)
      ∧ ∀ c, c = 'e' ∨ c = 'E' → s.step done c = some (.exponent, done) := by
  cases h with
  | integer hinteger =>
      obtain ⟨s, token, hrun, hholds⟩ := run_integer hinteger done
      refine ⟨s, hrun, ?_⟩
      rintro c (rfl | rfl)
      · exact hholds.step done 'e' (by decide)
      · exact hholds.step done 'E' (by decide)
  | fraction hinteger hdigits =>
      refine ⟨.fraction, run_fraction hinteger hdigits done, ?_⟩
      rintro c (rfl | rfl) <;> rfl

/-- The letter of an exponent and its sign lead to where its digits are taken in. -/
theorem run_opensExponent {s : Scanner} {done : List Token}
    (hs : ∀ c, c = 'e' ∨ c = 'E' → s.step done c = some (.exponent, done)) {es ds : List Char}
    (hes : OpensExponent es) (hds : IsDigits ds) :
    run s done (es ++ ds) = some (.exponentDigits, done) := by
  have hstays : ∀ c, c.isDigit = true →
      step .exponentDigits done c = some (.exponentDigits, done) := fun c hc => by simp [step, hc]
  cases hes with
  | unsigned hletter =>
      rw [List.cons_append, run, hs _ hletter]
      refine run_isDigits hds (fun c hc => ?_) hstays
      -- A digit is not taken for a sign.
      have hplus : c ≠ '+' := by rintro rfl; exact absurd hc (by decide)
      have hminus : c ≠ '-' := by rintro rfl; exact absurd hc (by decide)
      simp [step, hplus, hminus, hc]
  | signed hletter hsign =>
      rw [List.cons_append, List.cons_append, run, hs _ hletter]
      have hstep : ∀ d, d = '+' ∨ d = '-' → step .exponent done d = some (.exponentSign, done) := by
        rintro d (rfl | rfl) <;> rfl
      simp only [run, hstep _ hsign, List.nil_append]
      exact run_isDigits hds (fun c hc => by simp [step, hc]) hstays

/-- A number that is not written as a natural one is taken in. -/
theorem run_otherNumber {cs : List Char} (h : IsOtherNumber cs) (before : List Token) :
    ∃ s, run .between before cs = some (s, before) ∧ Settles s before .otherNumber before := by
  cases h with
  | negative hnatural =>
      obtain ⟨s, hrun, hholds⟩ := run_negative hnatural before
      exact ⟨s, hrun, hholds.settles before⟩
  | fraction hinteger hdigits =>
      refine ⟨.fraction, run_fraction hinteger hdigits before, rfl, fun c hc => ?_⟩
      obtain ⟨hdigit, -, hsmall, hlarge⟩ := goesOn_eq_false (hc rfl)
      simp [step, hdigit, hsmall, hlarge]
  | exponent hmantissa hopens hdigits =>
      obtain ⟨s, hrun, hletter⟩ := run_mantissa hmantissa before
      refine ⟨.exponentDigits, ?_, rfl, fun c hc => ?_⟩
      · rw [run_append, hrun]
        exact run_opensExponent hletter hopens hdigits
      · obtain ⟨hdigit, -⟩ := goesOn_eq_false (hc rfl)
        simp [step, hdigit]

/-! ### Strings -/

/-- The digits of an escape by number are taken in; the last one ends the escape. -/
theorem run_code {cs : List Char} {left value unit : Nat} (hlength : cs.length = left)
    (hleft : 0 < left) (hvalue : hexFrom? value cs = some unit) (units : List Nat)
    (done : List Token) :
    run (.code units left value) done cs = some (.string (unit :: units), done) := by
  induction cs generalizing left value with
  | nil => exact absurd hlength (Nat.ne_of_lt hleft)
  | cons c cs ih =>
      obtain ⟨v, hc, hrest⟩ := Option.bind_eq_some_iff.mp hvalue
      rw [List.length_cons] at hlength
      simp only [run, step, hc, Option.map_some]
      cases cs with
      | nil =>
          cases hrest
          rw [if_pos (by simp at hlength; omega)]
          rfl
      | cons d ds =>
          rw [List.length_cons] at hlength
          rw [if_neg (by omega)]
          exact ih (by rw [List.length_cons]; omega) (by omega) hrest

/-- A unit of a string is taken in however it is spelled. -/
theorem run_unit {unit : Nat} {cs : List Char} (h : UnitSpelledBy unit cs) (units : List Nat)
    (done : List Token) : run (.string units) done cs = some (.string (unit :: units), done) := by
  cases h with
  | plain hquote hbackslash hcontrol =>
      have hcontrol := Nat.not_lt.mpr hcontrol
      simp only [run, step, hquote, hbackslash, hcontrol, if_false]
  | @letter c _ hescapes =>
      -- No letter of an escape is the one that announces a number.
      have hu : c ≠ 'u' := by rintro rfl; cases hescapes
      show run (.escape units) done [c] = _
      simp only [run, step, hu, if_false, hescapes, Option.map_some]
  | number hlength hvalue => exact run_code hlength (by decide) hvalue units done

/-- The units of a string are taken in one after the other and kept in reverse. -/
theorem run_units {new : List Nat} {cs : List Char} (h : UnitsSpelledBy new cs)
    (units : List Nat) (done : List Token) :
    run (.string units) done cs = some (.string (new.reverse ++ units), done) := by
  induction h generalizing units with
  | nil => rfl
  | cons hunit _ ih =>
      rw [run_append, run_unit hunit, Option.bind_some, ih, List.reverse_cons, List.append_assoc]
      rfl

/-! ### Whole texts -/

/-- A token is taken in however it is spelled. -/
theorem run_spelledBy {token : Token} {cs : List Char} (h : token.SpelledBy cs)
    (before : List Token) :
    ∃ s done, run .between before cs = some (s, done) ∧ Settles s done token before := by
  cases h with
  | openBracket => exact ⟨_, _, rfl, settles_between _ _⟩
  | closeBracket => exact ⟨_, _, rfl, settles_between _ _⟩
  | openBrace => exact ⟨_, _, rfl, settles_between _ _⟩
  | closeBrace => exact ⟨_, _, rfl, settles_between _ _⟩
  | comma => exact ⟨_, _, rfl, settles_between _ _⟩
  | colon => exact ⟨_, _, rfl, settles_between _ _⟩
  | null => exact ⟨_, _, rfl, settles_word _ _⟩
  | yes => exact ⟨_, _, rfl, settles_word _ _⟩
  | no => exact ⟨_, _, rfl, settles_word _ _⟩
  | nat hnatural =>
      obtain ⟨s, hrun, hholds⟩ := run_natural hnatural before
      exact ⟨s, before, hrun, hholds.settles before⟩
  | otherNumber hother =>
      obtain ⟨s, hrun, hsettles⟩ := run_otherNumber hother before
      exact ⟨s, before, hrun, hsettles⟩
  | @string units cs hunits =>
      refine ⟨.between, _, ?_, settles_between _ _⟩
      show run (.string []) before (cs ++ ['"']) = _
      rw [run_append, run_units hunits, List.append_nil, Option.bind_some]
      show some (_, Token.ofUnits units.reverse.reverse :: before) = _
      rw [List.reverse_reverse]

end Scanner

open Scanner

/-- A token begins with some character. Only that of a number may go on with a number. -/
theorem Token.SpelledBy.begins {token : Token} {cs : List Char} (h : token.SpelledBy cs) :
    ∃ c rest, cs = c :: rest ∧ (token.isNumber = false → goesOn c = false) := by
  cases h with
  | nat hnatural => cases hnatural <;> exact ⟨_, _, rfl, fun hnumber => nomatch hnumber⟩
  | otherNumber hother =>
      obtain ⟨c, rest, rfl⟩ := List.exists_cons_of_ne_nil hother.ne_nil
      exact ⟨c, rest, rfl, fun hnumber => nomatch hnumber⟩
  | _ => exact ⟨_, _, rfl, fun _ => by decide⟩

/-- What follows a complete token is scanned as if the scanner were between tokens. -/
theorem Scanner.Settles.tokensFrom {s : Scanner} {done before tokens : List Token} {token : Token}
    {cs : List Char} (h : Settles s done token before) (hlexes : Lexes cs tokens)
    (hapart : (token :: tokens).IsChain Token.Apart) :
    Scanner.tokensFrom s done cs = Scanner.tokensFrom .between (token :: before) cs := by
  cases hlexes with
  | nil => exact h.finish
  | @blank c cs _ hblank _ =>
      -- A blank goes on with nothing.
      have hgoes : goesOn c = false := by
        simp only [isSpace, Bool.or_eq_true, decide_eq_true_eq] at hblank
        rcases hblank with ((rfl | rfl) | rfl) | rfl <;> decide
      rw [tokensFrom_cons, tokensFrom_cons, h.step c fun _ => hgoes]
      rfl
  | token hspelled _ =>
      have hnext := (List.isChain_cons_cons.mp hapart).1
      obtain ⟨c, rest, rfl, hgoes⟩ := hspelled.begins
      rw [List.cons_append, tokensFrom_cons, tokensFrom_cons,
        h.step c fun hnumber => hgoes (hnext hnumber)]
      rfl

/-- From between tokens the scanner finds the tokens of the text and adds them to those it has. -/
theorem Scanner.tokensFrom_of_lexes {cs : List Char} {tokens : List Token} (h : Lexes cs tokens)
    (hapart : tokens.IsChain Token.Apart) (done : List Token) :
    tokensFrom .between done cs = some (tokens.reverse ++ done) := by
  induction h generalizing done with
  | nil => rfl
  | @blank c cs tokens hblank _ ih =>
      have hstep : step .between done c = some (.between, done) := by simp [step, start, hblank]
      rw [tokensFrom_cons, hstep]
      exact ih hapart done
  | @token token front cs tokens hspelled hrest ih =>
      obtain ⟨s, next, hrun, hsettles⟩ := run_spelledBy hspelled done
      calc tokensFrom .between done (front ++ cs)
          = tokensFrom s next cs := by rw [tokensFrom, run_append, hrun]; rfl
        _ = tokensFrom .between (token :: done) cs := hsettles.tokensFrom hrest hapart
        _ = some (tokens.reverse ++ token :: done) := ih hapart.tail _
        _ = some ((token :: tokens).reverse ++ done) := by simp

/-- The scanner finds the tokens of every text that writes them with no two numbers in a row. -/
theorem Token.scan_of_lexes {cs : List Char} {tokens : List Token} (h : Lexes cs tokens)
    (hapart : tokens.IsChain Token.Apart) : Token.scan cs = some tokens := by
  have hfound := tokensFrom_of_lexes h hapart []
  obtain ⟨⟨s, done⟩, hrun, hfinish⟩ := Option.bind_eq_some_iff.mp hfound
  rw [Token.scan, hrun]
  simp [hfinish]

end Custody.Json
