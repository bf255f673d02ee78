import Custody.Bytes
import Custody.Text.Quoted

/-!
# `Custody.Text.Hex`: bytes as hexadecimal digits

Keys, addresses, salts and ciphertexts are written as two lower-case digits per byte. Reading
takes digits of either case and nothing else. It looks at the bytes of the text in UTF-8, so a
character outside ASCII is refused by its first byte, shown as the character of that number.
-/

set_option autoImplicit false

namespace Custody.Text.Hex

/-- Why a text is not a byte string in hexadecimal. -/
inductive DecodeError where
  /-- A byte is missing its second digit. -/
  | oddLength
  /-- The byte at this position is no digit. -/
  | badDigit (byte : UInt8) (position : Nat)
  deriving DecidableEq, Repr

/-- The text of the error. -/
def DecodeError.message : DecodeError → String
  | .oddLength => "Odd number of digits"
  | .badDigit byte position =>
    "Invalid character " ++ quoteChar (Char.ofNat byte.toNat) ++ " at position "
      ++ toString position

/-- The digit of a value below 16. -/
def digit (n : Nat) : Char :=
  if n < 10 then Char.ofNat (48 + n) else Char.ofNat (87 + n)

/-- The value of a digit, by its byte. -/
def value? (b : UInt8) : Option UInt8 :=
  if 48 ≤ b ∧ b ≤ 57 then some (b - 48)
  else if 97 ≤ b ∧ b ≤ 102 then some (b - 87)
  else if 65 ≤ b ∧ b ≤ 70 then some (b - 55)
  else none

/-- The two digits of a byte. -/
def pair (b : UInt8) : List Char := [digit (b.toNat / 16), digit (b.toNat % 16)]

/-- The digits of a byte string. -/
def encode (bytes : Bytes) : String := String.ofList (bytes.flatMap pair)

/-- The digit at a position, or the complaint about it. -/
def valueAt (position : Nat) (b : UInt8) : Except DecodeError UInt8 :=
  match value? b with
  | some v => .ok v
  | none => .error (.badDigit b position)

/-- Reads pairs of digits; `position` is where the first one stands in the whole text. -/
def decodePairs (position : Nat) : Bytes → Except DecodeError Bytes
  | [] => .ok []
  | [_] => .error .oddLength
  | a :: b :: rest => do
    let high ← valueAt position a
    let low ← valueAt (position + 1) b
    let bytes ← decodePairs (position + 2) rest
    return (16 * high + low) :: bytes

/-- The byte string that a text gives in hexadecimal. The length is looked at first. -/
def decode (text : String) : Except DecodeError Bytes :=
  let bytes := Bytes.ofText text
  if bytes.length % 2 = 1 then .error .oddLength else decodePairs 0 bytes

end Custody.Text.Hex
