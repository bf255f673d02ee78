import Custody.Domain.Label
import Custody.Domain.Punycode

/-!
# `Custody.Domain.Name`: names of hosts

A name may be written in the characters of any language. It is looked up in ASCII: what stands
for other characters is replaced, and a label that is not ASCII then is written in Punycode
behind the prefix `xn--`. A label that comes with the prefix has to be one that could have been
written so.
-/

set_option autoImplicit false

namespace Custody.Domain

open Text

/-- What stands in front of a label in Punycode. -/
def prefixOfCode : List Char := ['x', 'n', '-', '-']

/-- A label as it is looked up, and as it is read. -/
structure Label where
  ascii : List Char
  shown : List Char
  deriving DecidableEq, Repr

/-- Whether all of the characters are in ASCII. -/
def isAscii (cs : List Char) : Bool := cs.all fun c => c.toNat < 128

/-- The longest label that is written in Punycode, and the longest one that is read. -/
def maxWritten : Nat := 1000
def maxRead : Nat := 2000

/-- The label of a text in Punycode. A text without numbers at its end could have been ASCII. -/
def ofCode? (code : List Char) : Option Label :=
  if code = [] ∨ code.getLast? = some '-' ∨ maxRead < code.length then none
  else match Punycode.decode? code with
    | none => none
    | some shown =>
      if isLabel shown && !prefixOfCode.isPrefixOf shown then some ⟨prefixOfCode ++ code, shown⟩
      else none

/-- The label of a text in which everything has been replaced. -/
def label? (cs : List Char) : Option Label :=
  if prefixOfCode.isPrefixOf cs then ofCode? (cs.drop prefixOfCode.length)
  else if isAscii cs then some ⟨cs, cs⟩
  else if isLabel cs && cs.length ≤ maxWritten then
    some ⟨prefixOfCode ++ Punycode.encode cs, cs⟩
  else none

/-- The text with everything replaced that stands for something else. -/
def replaced? (cs : List Char) : Option (List Char) :=
  (cs.mapM map?).map fun parts => normal parts.flatten

/-- The name in ASCII. -/
def toAscii? (cs : List Char) : Option (List Char) := do
  let labels ← ((← replaced? cs).splitOn '.').mapM label?
  if labels.any (fun label => turns label.shown)
      && !labels.all (fun label => directionsFit label.shown) then none
  else some (['.'].intercalate (labels.map Label.ascii))

end Custody.Domain
