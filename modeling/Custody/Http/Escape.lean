import Custody.Bytes

/-!
# `Custody.Http.Escape`: percent escapes

A byte that may not stand for itself is written as a percent sign and two digits of base sixteen.
Which characters need this depends on the part of an address that they stand in; control
characters and those outside ASCII always do.
-/

set_option autoImplicit false

namespace Custody.Http

/-- A digit of base sixteen, in upper case. -/
def escapeDigit (n : Nat) : Char :=
  if n < 10 then Char.ofNat (48 + n) else Char.ofNat (55 + n)

/-- The escape of a byte. -/
def escapeByte (b : UInt8) : List Char :=
  ['%', escapeDigit (b.toNat / 16), escapeDigit (b.toNat % 16)]

/-- Whether a character may stand for itself, unless it is one of `reserved`. -/
def isPlain (reserved : List Char) (c : Char) : Bool :=
  0x20 ≤ c.toNat && c.toNat < 0x7f && !reserved.contains c

/-- A character, or the escapes of its bytes. -/
def escapeChar (reserved : List Char) (c : Char) : List Char :=
  if isPlain reserved c then [c] else (Bytes.ofText (String.singleton c)).flatMap escapeByte

/-- A text with escapes for the characters that may not stand in it. -/
def escape (reserved : List Char) (cs : List Char) : String :=
  String.ofList (cs.flatMap (escapeChar reserved))

/-- Characters that may not stand in a fragment. -/
def fragmentReserved : List Char := [' ', '"', '<', '>', '\x60']

/-- Characters that may not stand in a path. -/
def pathReserved : List Char := fragmentReserved ++ ['#', '?', '\x7b', '\x7d']

/-- Characters that may not stand in the name or the password of a user. -/
def userReserved : List Char :=
  pathReserved ++ ['/', ':', ';', '=', '@', '[', '\\', ']', '^', '|']

/-- Characters that may not stand in a query. -/
def queryReserved : List Char := [' ', '"', '#', '<', '>']

/-- The value of a digit of base sixteen. -/
def unescapeDigit? (b : UInt8) : Option UInt8 :=
  if 48 ≤ b ∧ b ≤ 57 then some (b - 48)
  else if 65 ≤ b ∧ b ≤ 70 then some (b - 55)
  else if 97 ≤ b ∧ b ≤ 102 then some (b - 87)
  else none

/-- The bytes that escapes stand for; a percent sign without two digits stands for itself. -/
def unescape : Bytes → Bytes
  | 37 :: a :: b :: rest =>
    match unescapeDigit? a, unescapeDigit? b with
    | some high, some low => (16 * high + low) :: unescape rest
    | _, _ => 37 :: unescape (a :: b :: rest)
  | b :: rest => b :: unescape rest
  | [] => []

/-- The text that a text with escapes stands for, if it is one. -/
def unescapeText? (cs : List Char) : Option (List Char) :=
  (Bytes.toText? (unescape (Bytes.ofText (String.ofList cs)))).map String.toList

end Custody.Http
