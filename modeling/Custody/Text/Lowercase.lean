import Custody.Text.Lowercase.Ranges

/-!
# `Custody.Text.Lowercase`: lower case

The lower case of a text, character by character. Letters of every script are lowered; what is
read afterwards are words and prefixes of ASCII letters, so it makes no difference here that
the final form of the Greek sigma is not told from the other one.
-/

set_option autoImplicit false

namespace Custody.Text

/-- Whether the run moves the code point `n`. -/
def CaseRun.moves (run : CaseRun) (n : Nat) : Bool :=
  run.first ≤ n && n ≤ run.last && (n - run.first) % run.step = 0

/-- The lower case of one character: itself, one other character or, for U+0130, two. -/
def lowerChar (c : Char) : List Char :=
  if c.toNat = 0x130 then ['i', '\u0307']
  else match caseRuns.find? (·.moves c.toNat) with
    | some run => [Char.ofNat (c.toNat + run.shift).toNat]
    | none => [c]

/-- The lower case of a text. -/
def lower (cs : List Char) : List Char := cs.flatMap lowerChar

end Custody.Text
