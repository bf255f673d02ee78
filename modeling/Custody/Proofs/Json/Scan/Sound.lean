import Custody.Proofs.Json.Grammar

/-!
# `Custody.Proofs.Json.Scan.Sound`: the scanner finds no other tokens

`Token.lexes_of_scan`: the tokens that the scanner finds are tokens that the text writes, spelled
as the grammar asks.

`Scanner.Pending` says which characters of an unfinished token bring the scanner to a state. One
character goes on with such a token, finishes it, or starts something after it
(`Pending.takes`), and so a run leaves the scanner with finished tokens that the text so far
writes and the beginning of one more (`Scanned.run`).
-/

set_option autoImplicit false

namespace Custody.Json

namespace Scanner

/-- The scanner is in this state after these characters of a token that is not finished yet. -/
inductive Pending : Scanner → List Char → Prop where
  | between : Pending .between []
  | word {front rest : List Char} {token : Token} (spelled : token.SpelledBy (front ++ rest)) :
      Pending (.word rest token) front
  | string {units : List Nat} {cs : List Char} (spelled : UnitsSpelledBy units.reverse cs) :
      Pending (.string units) ('"' :: cs)
  | escape {units : List Nat} {cs : List Char} (spelled : UnitsSpelledBy units.reverse cs) :
      Pending (.escape units) ('"' :: (cs ++ ['\\']))
  | code {units : List Nat} {cs hex : List Char} {left value : Nat}
      (spelled : UnitsSpelledBy units.reverse cs) (length : hex.length + left = 4)
      (missing : 0 < left) (sofar : hexFrom? 0 hex = some value) :
      Pending (.code units left value) ('"' :: (cs ++ '\\' :: 'u' :: hex))
  | minus : Pending .minus ['-']
  | zero : Pending .zero ['0']
  | digits {c : Char} {cs : List Char} (first : c.isDigit = true) (nonzero : c ≠ '0')
      (rest : ∀ d ∈ cs, d.isDigit = true) :
      Pending (.digits (Nat.ofDigitChars 10 (c :: cs) 0)) (c :: cs)
  | minusZero : Pending .minusZero ['-', '0']
  | minusDigits {c : Char} {cs : List Char} (first : c.isDigit = true) (nonzero : c ≠ '0')
      (rest : ∀ d ∈ cs, d.isDigit = true) : Pending .minusDigits ('-' :: c :: cs)
  | point {cs : List Char} (integer : IsInteger cs) : Pending .point (cs ++ ['.'])
  | fraction {cs ds : List Char} (integer : IsInteger cs) (digits : IsDigits ds) :
      Pending .fraction (cs ++ '.' :: ds)
  | exponent {cs : List Char} {c : Char} (mantissa : IsMantissa cs) (letter : c = 'e' ∨ c = 'E') :
      Pending .exponent (cs ++ [c])
  | exponentSign {cs : List Char} {c d : Char} (mantissa : IsMantissa cs)
      (letter : c = 'e' ∨ c = 'E') (sign : d = '+' ∨ d = '-') : Pending .exponentSign (cs ++ [c, d])
  | exponentDigits {cs es ds : List Char} (mantissa : IsMantissa cs) (opens : OpensExponent es)
      (digits : IsDigits ds) : Pending .exponentDigits (cs ++ (es ++ ds))

/-- Where the text may end, the unfinished token is complete, if there is one. -/
theorem Pending.finish {s : Scanner} {cs front : List Char} {done tokens : List Token}
    (h : Pending s cs) (hfront : Lexes front done.reverse) (hfinish : s.finish done = some tokens) :
    Lexes (front ++ cs) tokens.reverse := by
  -- The states that may not end a text are gone with `hfinish`.
  have whole {token : Token} (hspelled : token.SpelledBy cs) :
      Lexes (front ++ cs) (token :: done).reverse := by
    rw [List.reverse_cons]
    exact hfront.concat hspelled
  cases h with
  | between =>
      cases hfinish
      rwa [List.append_nil]
  | @word _ rest token hspelled =>
      cases rest with
      | nil =>
          cases hfinish
          rw [List.append_nil] at hspelled
          exact whole hspelled
      | cons => cases hfinish
  | zero => cases hfinish; exact whole (.nat .zero)
  | digits hfirst hnonzero hrest =>
      cases hfinish
      exact whole (.nat (.digits hfirst hnonzero hrest))
  | minusZero => cases hfinish; exact whole (.otherNumber (.negative .zero))
  | minusDigits hfirst hnonzero hrest =>
      cases hfinish
      exact whole (.otherNumber (.negative (.digits hfirst hnonzero hrest)))
  | fraction hinteger hdigits =>
      cases hfinish
      exact whole (.otherNumber (.fraction hinteger hdigits))
  | exponentDigits hmantissa hopens hdigits =>
      cases hfinish
      exact whole (.otherNumber (.exponent hmantissa hopens hdigits))
  | string | escape | code | minus | point | exponent | exponentSign => cases hfinish

/-- What one character does after those of an unfinished token: it goes on with the token, or it
finishes it, or it starts something after it. -/
inductive Takes (s : Scanner) (cs : List Char) (done : List Token) (c : Char) :
    Scanner → List Token → Prop where
  | goesOn {next : Scanner} (pending : Pending next (cs ++ [c])) : Takes s cs done c next done
  | closes {token : Token} (spelled : token.SpelledBy (cs ++ [c])) :
      Takes s cs done c .between (token :: done)
  | starts {tokens after : List Token} {next : Scanner} (finish : s.finish done = some tokens)
      (start : start tokens c = some (next, after)) : Takes s cs done c next after

/-- A character that goes on with the token, or else something that the rest of the step says. -/
theorem takes_ite {s next goes : Scanner} {cs : List Char} {c : Char} {done after : List Token}
    {p : Prop} [Decidable p] {rest : Option (Scanner × List Token)}
    (hstep : (if p then some (goes, done) else rest) = some (next, after))
    (hgoes : p → Pending goes (cs ++ [c]))
    (hrest : ¬ p → rest = some (next, after) → Takes s cs done c next after) :
    Takes s cs done c next after := by
  split at hstep
  · rename_i hp
    cases hstep
    exact .goesOn (hgoes hp)
  · rename_i hp
    exact hrest hp hstep

/-- Nothing comes of a step that fails. -/
theorem takes_none {s next : Scanner} {cs : List Char} {c : Char} {done after : List Token}
    (hstep : (none : Option (Scanner × List Token)) = some (next, after)) :
    Takes s cs done c next after := nomatch hstep

/-- After an integer comes a point, an exponent, or what does not belong to the number. -/
theorem takes_afterInteger {s next : Scanner} {cs : List Char} {c : Char} {token : Token}
    {done after : List Token} (hinteger : IsInteger cs)
    (hfinish : s.finish done = some (token :: done))
    (hstep : afterInteger token done c = some (next, after)) : Takes s cs done c next after := by
  refine takes_ite hstep (fun hpoint => hpoint ▸ .point hinteger) fun _ hstep => ?_
  refine takes_ite hstep (fun hletter => ?_) fun _ hstep => .starts hfinish hstep
  exact .exponent (.integer hinteger) (by simpa using hletter)

/-- Inside a string a character closes it, starts an escape or is a unit. -/
theorem takes_string {units : List Nat} {cs : List Char} {c : Char} {next : Scanner}
    {done after : List Token} (hunits : UnitsSpelledBy units.reverse cs)
    (hstep : step (.string units) done c = some (next, after)) :
    Takes (.string units) ('"' :: cs) done c next after := by
  rw [step] at hstep
  split at hstep
  · rename_i hquote
    subst hquote
    cases hstep
    exact .closes (.string hunits)
  rename_i hquote
  refine takes_ite hstep (fun hbackslash => hbackslash ▸ .escape hunits) fun hbackslash hstep => ?_
  split at hstep
  · exact takes_none hstep
  · rename_i hcontrol
    cases hstep
    refine .goesOn (.string ?_)
    rw [List.reverse_cons]
    exact hunits.concat (.plain hquote hbackslash (Nat.le_of_not_lt hcontrol))

/-- After a backslash comes a letter that is a unit, or the one that announces a number. -/
theorem takes_escape {units : List Nat} {cs : List Char} {c : Char} {next : Scanner}
    {done after : List Token} (hunits : UnitsSpelledBy units.reverse cs)
    (hstep : step (.escape units) done c = some (next, after)) :
    Takes (.escape units) ('"' :: (cs ++ ['\\'])) done c next after := by
  have hend : ('"' :: (cs ++ ['\\'])) ++ [c] = '"' :: (cs ++ ['\\', c]) := by simp
  refine takes_ite hstep (fun hu => ?_) fun _ hstep => ?_
  · rw [hend, hu]
    exact .code hunits rfl (by decide) rfl
  · obtain ⟨unit, hescapes, hnext⟩ := Option.map_eq_some_iff.mp hstep
    cases hnext
    refine .goesOn ?_
    rw [hend]
    refine .string ?_
    rw [List.reverse_cons]
    exact hunits.concat (.letter hescapes)

/-- A digit of an escape by number is the last one, and the unit is complete, or others follow. -/
theorem takes_code {units : List Nat} {cs hex : List Char} {left value : Nat} {c : Char}
    {next : Scanner} {done after : List Token} (hunits : UnitsSpelledBy units.reverse cs)
    (hlength : hex.length + left = 4) (hmissing : 0 < left) (hsofar : hexFrom? 0 hex = some value)
    (hstep : step (.code units left value) done c = some (next, after)) :
    Takes (.code units left value) ('"' :: (cs ++ '\\' :: 'u' :: hex)) done c next after := by
  have hend : ('"' :: (cs ++ '\\' :: 'u' :: hex)) ++ [c]
      = '"' :: (cs ++ '\\' :: 'u' :: (hex ++ [c])) := by simp
  obtain ⟨v, hv, hnext⟩ := Option.map_eq_some_iff.mp hstep
  have hvalue : hexFrom? 0 (hex ++ [c]) = some (16 * value + v) := by
    rw [hexFrom?_concat, hsofar, Option.bind_some, hv, Option.map_some]
  cases hnext
  refine .goesOn ?_
  rw [hend]
  split
  · refine .string ?_
    rw [List.reverse_cons]
    exact hunits.concat (.number (by simp; omega) hvalue)
  · exact .code hunits (by simp; omega) (by omega) hvalue

/-- What one character does after those of an unfinished token. -/
theorem Pending.takes {s next : Scanner} {cs : List Char} {c : Char} {done after : List Token}
    (h : Pending s cs) (hstep : s.step done c = some (next, after)) :
    Takes s cs done c next after := by
  cases h with
  | between => exact .starts rfl hstep
  | @word _ rest token hspelled =>
      cases rest with
      | nil => exact .starts rfl hstep
      | cons x rest =>
          refine takes_ite hstep (fun hc => ?_) fun _ => takes_none
          exact .word (by simpa [hc] using hspelled)
  | string hunits => exact takes_string hunits hstep
  | escape hunits => exact takes_escape hunits hstep
  | code hunits hlength hmissing hsofar => exact takes_code hunits hlength hmissing hsofar hstep
  | minus =>
      refine takes_ite hstep (fun hzero => hzero ▸ .minusZero) fun hzero hstep => ?_
      refine takes_ite hstep (fun hdigit => ?_) fun _ => takes_none
      exact .minusDigits hdigit hzero (by simp)
  | zero =>
      rw [step] at hstep
      split at hstep
      · exact takes_none hstep
      · exact takes_afterInteger (.natural .zero) rfl hstep
  | @digits d cs hfirst hnonzero hrest =>
      refine takes_ite hstep (fun hdigit => ?_) fun _ hstep =>
        takes_afterInteger (.natural (.digits hfirst hnonzero hrest)) rfl hstep
      have hmore := Pending.digits hfirst hnonzero (isDigit_concat hrest hdigit)
      rwa [← List.cons_append, Nat.ofDigitChars_append] at hmore
  | minusZero =>
      rw [step] at hstep
      split at hstep
      · exact takes_none hstep
      · exact takes_afterInteger (.negative .zero) rfl hstep
  | minusDigits hfirst hnonzero hrest =>
      refine takes_ite hstep (fun hdigit => ?_) fun _ hstep =>
        takes_afterInteger (.negative (.digits hfirst hnonzero hrest)) rfl hstep
      exact .minusDigits hfirst hnonzero (isDigit_concat hrest hdigit)
  | point hinteger =>
      refine takes_ite hstep (fun hdigit => ?_) fun _ => takes_none
      rw [List.append_assoc]
      exact .fraction hinteger (.of_isDigit hdigit)
  | fraction hinteger hdigits =>
      refine takes_ite hstep (fun hdigit => ?_) fun _ hstep => ?_
      · rw [List.append_assoc]
        exact .fraction hinteger (hdigits.concat hdigit)
      refine takes_ite hstep (fun hletter => ?_) fun _ => .starts rfl
      exact .exponent (.fraction hinteger hdigits) (by simpa using hletter)
  | exponent hmantissa hletter =>
      refine takes_ite hstep (fun hsign => ?_) fun _ hstep => ?_
      · rw [List.append_assoc]
        exact .exponentSign hmantissa hletter (by simpa using hsign)
      refine takes_ite hstep (fun hdigit => ?_) fun _ => takes_none
      rw [List.append_assoc]
      exact .exponentDigits hmantissa (.unsigned hletter) (.of_isDigit hdigit)
  | exponentSign hmantissa hletter hsign =>
      refine takes_ite hstep (fun hdigit => ?_) fun _ => takes_none
      rw [List.append_assoc]
      exact .exponentDigits hmantissa (.signed hletter hsign) (.of_isDigit hdigit)
  | exponentDigits hmantissa hopens hdigits =>
      refine takes_ite hstep (fun hdigit => ?_) fun _ => .starts rfl
      rw [List.append_assoc, List.append_assoc]
      exact .exponentDigits hmantissa hopens (hdigits.concat hdigit)

/-- The characters taken in so far write the finished tokens, and then the part of a token that
the scanner is inside of. -/
def Scanned (s : Scanner) (done : List Token) (cs : List Char) : Prop :=
  ∃ front pending, cs = front ++ pending ∧ Lexes front done.reverse ∧ Pending s pending

/-- Characters that write the finished tokens leave nothing pending. -/
theorem Scanned.of_lexes {done : List Token} {cs : List Char} (h : Lexes cs done.reverse) :
    Scanned .between done cs :=
  ⟨cs, [], (List.append_nil cs).symm, h, .between⟩

/-- What a character starts is a token by itself, the first character of one, or a blank. -/
theorem scanned_start {s : Scanner} {cs : List Char} {c : Char} {done after : List Token}
    (h : Lexes cs done.reverse) :
    start done c = some (s, after) → Scanned s after (cs ++ [c]) := by
  have among {p : Prop} [Decidable p] {first : Scanner × List Token}
      {rest : Option (Scanner × List Token)} (hfirst : p → Scanned first.1 first.2 (cs ++ [c]))
      (hrest : ¬ p → rest = some (s, after) → Scanned s after (cs ++ [c])) :
      (if p then some first else rest) = some (s, after) → Scanned s after (cs ++ [c]) := by
    intro hstart
    split at hstart
    · rename_i hp
      cases hstart
      exact hfirst hp
    · rename_i hp
      exact hrest hp hstart
  have token {token : Token} {d : Char} (hspelled : token.SpelledBy [d]) (hc : c = d) :
      Scanned .between (token :: done) (cs ++ [c]) := by
    refine .of_lexes ?_
    rw [hc, List.reverse_cons]
    exact h.concat hspelled
  have inside {s : Scanner} {d : Char} (hpending : Pending s [d]) (hc : c = d) :
      Scanned s done (cs ++ [c]) :=
    ⟨cs, [c], rfl, h, hc ▸ hpending⟩
  refine among (fun hblank => .of_lexes ?_) fun _ => ?_
  · have hmore := h.append (.blank hblank .nil)
    rwa [List.append_nil] at hmore
  refine among (token .openBracket) fun _ => among (token .closeBracket) fun _ => ?_
  refine among (token .openBrace) fun _ => among (token .closeBrace) fun _ => ?_
  refine among (token .comma) fun _ => among (token .colon) fun _ => ?_
  refine among (inside (.string .nil)) fun _ => among (inside (.word .null)) fun _ => ?_
  refine among (inside (.word .yes)) fun _ => among (inside (.word .no)) fun _ => ?_
  refine among (inside .minus) fun _ => among (inside .zero) fun hzero => ?_
  refine among (fun hdigit => ?_) fun _ hnone => nomatch hnone
  -- A digit by itself has the value that the scanner gives it.
  have hdigits : Pending (.digits (Nat.ofDigitChars 10 [c] 0)) [c] :=
    .digits hdigit hzero (by simp)
  have hvalue : Nat.ofDigitChars 10 [c] 0 = c.toNat - 48 := by simp [Nat.ofDigitChars_cons]
  rw [hvalue] at hdigits
  exact inside hdigits rfl

/-- What one character keeps. -/
theorem Scanned.step {s next : Scanner} {cs : List Char} {c : Char} {done after : List Token}
    (h : Scanned s done cs) (hstep : s.step done c = some (next, after)) :
    Scanned next after (cs ++ [c]) := by
  obtain ⟨front, pending, rfl, hfront, hpending⟩ := h
  cases hpending.takes hstep with
  | goesOn hmore => exact ⟨front, pending ++ [c], List.append_assoc _ _ _, hfront, hmore⟩
  | closes hspelled =>
      refine .of_lexes ?_
      rw [List.append_assoc, List.reverse_cons]
      exact hfront.concat hspelled
  | starts hfinish hstart => exact scanned_start (hpending.finish hfront hfinish) hstart

/-- What a run over many characters keeps. -/
theorem Scanned.run {s next : Scanner} {cs more : List Char} {done after : List Token}
    (h : Scanned s done cs) (hrun : Scanner.run s done more = some (next, after)) :
    Scanned next after (cs ++ more) := by
  induction more generalizing s done cs with
  | nil =>
      cases hrun
      rwa [List.append_nil]
  | cons c more ih =>
      rw [Scanner.run] at hrun
      cases hstep : s.step done c with
      | none => rw [hstep] at hrun; cases hrun
      | some middle =>
          rw [hstep] at hrun
          have hnext := ih (h.step hstep) hrun
          rwa [List.append_assoc] at hnext

end Scanner

open Scanner

/-- The tokens that the scanner finds are tokens that the text writes. -/
theorem Token.lexes_of_scan {cs : List Char} {tokens : List Token}
    (h : Token.scan cs = some tokens) : Lexes cs tokens := by
  rw [Token.scan] at h
  cases hrun : Scanner.run .between [] cs with
  | none => rw [hrun] at h; cases h
  | some after =>
      rw [hrun] at h
      obtain ⟨done, hfinish, rfl⟩ := Option.map_eq_some_iff.mp h
      have hnothing : Scanned .between [] [] := .of_lexes .nil
      obtain ⟨front, pending, rfl, hfront, hpending⟩ := hnothing.run hrun
      exact hpending.finish hfront hfinish

end Custody.Json
