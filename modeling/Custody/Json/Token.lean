import Custody.Json.Value

/-!
# `Custody.Json.Token`: the tokens of a JSON text

A text is read character by character by a machine (`Scanner`) that is between tokens or
inside a literal word, a string or a number. Nothing is looked at twice: a number ends at the
first character that does not go on with it, and that character then starts something new.

A string is first a list of code units, since an escape may name half of a surrogate pair;
`Token.ofUnits` joins the halves.
-/

set_option autoImplicit false

namespace Custody.Json

/-- A token. -/
inductive Token where
  | openBracket
  | closeBracket
  | openBrace
  | closeBrace
  | comma
  | colon
  | null
  | bool (b : Bool)
  | nat (n : Nat)
  | otherNumber
  | string (text : Spelled)

/-- The characters that the code units of a string spell. A unit of a surrogate pair has to be
next to its partner. -/
def charsOfUnits : List Nat → Option (List Char)
  | [] => some []
  | unit :: rest =>
    if 0xd800 ≤ unit ∧ unit < 0xdc00 then
      match rest with
      | low :: rest =>
        -- Both halves together are one character beyond the first 65536.
        if 0xdc00 ≤ low ∧ low < 0xe000 then
          (charsOfUnits rest).map
            (Char.ofNat (0x10000 + (unit - 0xd800) * 0x400 + (low - 0xdc00)) :: ·)
        else none
      | [] => none
    else if 0xdc00 ≤ unit ∧ unit < 0xe000 then none
    else (charsOfUnits rest).map (Char.ofNat unit :: ·)

/-- The string token of code units. -/
def Token.ofUnits (units : List Nat) : Token :=
  .string ((charsOfUnits units).map String.ofList)

/-- Where the machine is. -/
inductive Scanner where
  | between
  /-- Inside a literal word, of which `rest` is still to come. -/
  | word (rest : List Char) (token : Token)
  /-- Inside a string; its units so far, latest first. -/
  | string (units : List Nat)
  /-- After a backslash. -/
  | escape (units : List Nat)
  /-- Inside an escape by number, of which `left` digits are still to come. -/
  | code (units : List Nat) (left value : Nat)
  /-- After a minus sign. -/
  | minus
  /-- After a zero that began a number. -/
  | zero
  /-- Among the digits of a number so far natural. -/
  | digits (n : Nat)
  /-- After a minus sign and a zero. -/
  | minusZero
  /-- Among the digits after a minus sign. -/
  | minusDigits
  /-- After the point. -/
  | point
  | fraction
  /-- After the letter of an exponent. -/
  | exponent
  /-- After the sign of an exponent. -/
  | exponentSign
  | exponentDigits

namespace Scanner

/-- The blanks between tokens. -/
def isSpace (c : Char) : Bool := c = ' ' || c = '\n' || c = '\t' || c = '\r'

/-- What a character starts that continues nothing. -/
def start (done : List Token) (c : Char) : Option (Scanner × List Token) :=
  if isSpace c then some (.between, done)
  else if c = '[' then some (.between, .openBracket :: done)
  else if c = ']' then some (.between, .closeBracket :: done)
  else if c = '\x7b' then some (.between, .openBrace :: done)
  else if c = '\x7d' then some (.between, .closeBrace :: done)
  else if c = ',' then some (.between, .comma :: done)
  else if c = ':' then some (.between, .colon :: done)
  else if c = '"' then some (.string [], done)
  else if c = 'n' then some (.word ['u', 'l', 'l'] .null, done)
  else if c = 't' then some (.word ['r', 'u', 'e'] (.bool true), done)
  else if c = 'f' then some (.word ['a', 'l', 's', 'e'] (.bool false), done)
  else if c = '-' then some (.minus, done)
  else if c = '0' then some (.zero, done)
  else if c.isDigit then some (.digits (c.toNat - 48), done)
  else none

/-- The unit that a letter after a backslash stands for. -/
def letterEscape? (c : Char) : Option Nat :=
  if c = '"' || c = '\\' || c = '/' then some c.toNat
  else if c = 'b' then some 8
  else if c = 'f' then some 12
  else if c = 'n' then some 10
  else if c = 'r' then some 13
  else if c = 't' then some 9
  else none

/-- The value of a digit of base sixteen, in either case. -/
def hexValue? (c : Char) : Option Nat :=
  if c.isDigit then some (c.toNat - 48)
  else if 'a' ≤ c ∧ c ≤ 'f' then some (c.toNat - 87)
  else if 'A' ≤ c ∧ c ≤ 'F' then some (c.toNat - 55)
  else none

/-- Goes on with a point or an exponent, or ends the number before `c`. -/
def afterInteger (token : Token) (done : List Token) (c : Char) :
    Option (Scanner × List Token) :=
  if c = '.' then some (.point, done)
  else if c = 'e' || c = 'E' then some (.exponent, done)
  else start (token :: done) c

/-- Takes in one character. `done` holds the finished tokens, latest first. -/
def step : Scanner → List Token → Char → Option (Scanner × List Token)
  | .between, done, c => start done c
  | .word [] token, done, c => start (token :: done) c
  | .word (x :: rest) token, done, c => if c = x then some (.word rest token, done) else none
  | .string units, done, c =>
    if c = '"' then some (.between, Token.ofUnits units.reverse :: done)
    else if c = '\\' then some (.escape units, done)
    else if c.toNat < 32 then none
    else some (.string (c.toNat :: units), done)
  | .escape units, done, c =>
    if c = 'u' then some (.code units 4 0, done)
    else (letterEscape? c).map fun unit => (.string (unit :: units), done)
  | .code units left value, done, c =>
    (hexValue? c).map fun v =>
      let value := 16 * value + v
      (if left ≤ 1 then .string (value :: units) else .code units (left - 1) value, done)
  | .minus, done, c =>
    if c = '0' then some (.minusZero, done)
    else if c.isDigit then some (.minusDigits, done)
    else none
  -- A zero in front is not followed by another digit.
  | .zero, done, c => if c.isDigit then none else afterInteger (.nat 0) done c
  | .digits n, done, c =>
    if c.isDigit then some (.digits (10 * n + (c.toNat - 48)), done)
    else afterInteger (.nat n) done c
  | .minusZero, done, c => if c.isDigit then none else afterInteger .otherNumber done c
  | .minusDigits, done, c =>
    if c.isDigit then some (.minusDigits, done) else afterInteger .otherNumber done c
  | .point, done, c => if c.isDigit then some (.fraction, done) else none
  | .fraction, done, c =>
    if c.isDigit then some (.fraction, done)
    else if c = 'e' || c = 'E' then some (.exponent, done)
    else start (.otherNumber :: done) c
  | .exponent, done, c =>
    if c = '+' || c = '-' then some (.exponentSign, done)
    else if c.isDigit then some (.exponentDigits, done)
    else none
  | .exponentSign, done, c => if c.isDigit then some (.exponentDigits, done) else none
  | .exponentDigits, done, c =>
    if c.isDigit then some (.exponentDigits, done) else start (.otherNumber :: done) c

/-- Takes in all characters. -/
def run : Scanner → List Token → List Char → Option (Scanner × List Token)
  | scanner, done, [] => some (scanner, done)
  | scanner, done, c :: rest =>
    match scanner.step done c with
    | none => none
    | some (scanner, done) => run scanner done rest

/-- The tokens at the end of the text, latest first, if the text may end here. -/
def finish : Scanner → List Token → Option (List Token)
  | .between, done => some done
  | .word [] token, done => some (token :: done)
  | .zero, done => some (.nat 0 :: done)
  | .digits n, done => some (.nat n :: done)
  | .minusZero, done => some (.otherNumber :: done)
  | .minusDigits, done => some (.otherNumber :: done)
  | .fraction, done => some (.otherNumber :: done)
  | .exponentDigits, done => some (.otherNumber :: done)
  | _, _ => none

end Scanner

/-- The tokens of a text, if it consists of tokens. -/
def Token.scan (text : List Char) : Option (List Token) :=
  match Scanner.run .between [] text with
  | none => none
  | some (scanner, done) => (scanner.finish done).map List.reverse

end Custody.Json
