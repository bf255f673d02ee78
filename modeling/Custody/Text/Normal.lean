import Custody.Text.Normal.Classes
import Custody.Text.Normal.Decompositions

/-!
# `Custody.Text.Normal`: texts that look the same, written the same

A letter with marks can be written in several ways. Normal text is taken apart into letters and
marks (`expand`), the marks are put in order (`order`), and what can be put together is put
together (`compose`). Syllables of Hangul are taken apart and put together by a rule.
-/

set_option autoImplicit false

namespace Custody.Text.Normal

/-! ### Hangul -/

/-- The first syllable, the first letters of its three kinds, and how many syllables there are. -/
def firstSyllable : Nat := 0xac00
def firstLead : Nat := 0x1100
def firstVowel : Nat := 0x1161
def beforeTail : Nat := 0x11a7
def leads : Nat := 19
def vowels : Nat := 21
def tails : Nat := 28

/-- The letters of a syllable. -/
def letters? (c : Char) : Option (List Char) :=
  let n := c.toNat - firstSyllable
  if c.toNat < firstSyllable ∨ leads * vowels * tails ≤ n then none
  else
    let lead := Char.ofNat (firstLead + n / (vowels * tails))
    let vowel := Char.ofNat (firstVowel + n % (vowels * tails) / tails)
    let tail := if n % tails = 0 then [] else [Char.ofNat (beforeTail + n % tails)]
    some (lead :: vowel :: tail)

/-- The syllable of a lead and a vowel, or of a syllable without a tail and a tail. -/
def syllable? (a b : Char) : Option Char :=
  let lead := a.toNat - firstLead
  let vowel := b.toNat - firstVowel
  let opened := a.toNat - firstSyllable
  let tail := b.toNat - beforeTail
  if firstLead ≤ a.toNat ∧ lead < leads ∧ firstVowel ≤ b.toNat ∧ vowel < vowels then
    some (Char.ofNat (firstSyllable + (lead * vowels + vowel) * tails))
  else if firstSyllable ≤ a.toNat ∧ opened < leads * vowels * tails ∧ opened % tails = 0
      ∧ beforeTail < b.toNat ∧ tail < tails then
    some (Char.ofNat (a.toNat + tail))
  else none

/-! ### Taking apart -/

/-- How often what a character stands for can itself stand for something. -/
def maxDepth : Nat := 6

/-- What a character comes to when it is taken apart. -/
def expandChar : (depth : Nat) → Char → List Char
  | 0, c => [c]
  | depth + 1, c =>
    match letters? c with
    | some cs => cs
    | none =>
      match findIn decompositions c with
      | some cs => cs.flatMap (expandChar depth)
      | none => [c]

/-- A text taken apart. -/
def expand (cs : List Char) : List Char := cs.flatMap (expandChar maxDepth)

/-! ### Order -/

/-- A character and what follows it, in order: a mark goes behind marks of lower classes. -/
def place (c : Char) : List Char → List Char
  | [] => [c]
  | d :: rest =>
    if 0 < markClass d && markClass d < markClass c then d :: place c rest else c :: d :: rest

/-- The marks in order. -/
def order : List Char → List Char
  | [] => []
  | c :: rest => place c (order rest)

/-! ### Putting together -/

/-- The pairs of a row that are put together. -/
def pairsOf (row : Row) : List (List Char × Char) :=
  (row.entries.toList.zipIdx row.start).filterMap fun (entry, n) =>
    match entry with
    | some [a, b] => if inSome keptApart (Char.ofNat n) then none else some ([a, b], Char.ofNat n)
    | _ => none

/-- All pairs that are put together. -/
def pairs : List (List Char × Char) := decompositions.flatMap pairsOf

/-- The character that a pair is put together to. -/
def join? (a b : Char) : Option Char :=
  match syllable? a b with
  | some c => some c
  | none => pairs.lookup [a, b]

/-- Puts `base` together with what follows it. `marks` are those in between, the last one first:
a mark that is not of a lower class stands in the way. -/
def composeFrom (base : Char) (marks : List Char) : List Char → List Char
  | [] => base :: marks.reverse
  | c :: rest =>
    let isBlocked := (marks.head?.map fun mark => decide (markClass c ≤ markClass mark)).getD false
    match if isBlocked then none else join? base c with
    | some joined => composeFrom joined marks rest
    | none =>
      -- A new letter starts over; a mark waits, and may be in the way of others.
      if markClass c = 0 then base :: marks.reverse ++ composeFrom c [] rest
      else composeFrom base (c :: marks) rest

/-- Puts together what can be. -/
def compose : List Char → List Char
  | [] => []
  | c :: rest => if markClass c = 0 then composeFrom c [] rest else c :: compose rest

end Custody.Text.Normal

namespace Custody.Text

/-- The composed normal form of a text. -/
def normal (cs : List Char) : List Char := Normal.compose (Normal.order (Normal.expand cs))

end Custody.Text
