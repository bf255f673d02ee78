import Custody.Bytes

/-!
# `Custody.Text.Lossy`: text of doubtful bytes

What comes over a network should be UTF-8 and need not be. Here every stretch of bytes that
spells no character, as long as it could still have become one, is read as one U+FFFD, and
everything else as what it spells.
-/

set_option autoImplicit false

namespace Custody.Text

/-- The character that stands for bytes that spell none. -/
def replacement : Char := '\ufffd'

/-- A character begun: its value so far, how many bytes are missing, and the bounds of the next
one. -/
structure Begun where
  value : Nat
  missing : Nat
  low : Nat
  high : Nat
  deriving DecidableEq, Repr

/-- What a byte begins that goes on with nothing: a character, or a part of one. -/
def Begun.ofByte (b : Nat) : List Char × Option Begun :=
  if b < 0x80 then ([Char.ofNat b], none)
  else if b < 0xc2 then ([replacement], none)
  else if b < 0xe0 then ([], some ⟨b - 0xc0, 1, 0x80, 0xbf⟩)
  else if b < 0xf0 then
    ([], some ⟨b - 0xe0, 2, if b = 0xe0 then 0xa0 else 0x80, if b = 0xed then 0x9f else 0xbf⟩)
  else if b < 0xf5 then
    ([], some ⟨b - 0xf0, 3, if b = 0xf0 then 0x90 else 0x80, if b = 0xf4 then 0x8f else 0xbf⟩)
  else ([replacement], none)

/-- Takes in one byte. -/
def Begun.step (begun : Option Begun) (b : Nat) : List Char × Option Begun :=
  match begun with
  | none => ofByte b
  | some part =>
    if part.low ≤ b ∧ b ≤ part.high then
      let value := 64 * part.value + (b - 0x80)
      if part.missing ≤ 1 then ([Char.ofNat value], none)
      else ([], some ⟨value, part.missing - 1, 0x80, 0xbf⟩)
    else
      let (cs, next) := ofByte b
      (replacement :: cs, next)

/-- The characters of bytes after a beginning. -/
def lossyChars (begun : Option Begun) : Bytes → List Char
  | [] => if begun.isSome then [replacement] else []
  | b :: rest =>
    let (cs, begun) := Begun.step begun b.toNat
    cs ++ lossyChars begun rest

/-- The text of bytes. -/
def lossy (bytes : Bytes) : String := String.ofList (lossyChars none bytes)

end Custody.Text
