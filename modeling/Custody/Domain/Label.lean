import Custody.Domain.Mapping
import Custody.Domain.Properties
import Custody.Text.Normal

/-!
# `Custody.Domain.Label`: what a label of a name may be

A label is a part of a name between dots. One that is written in other characters than ASCII must
be normal, must not start with a mark, and may hold joiners only where they change how letters
look. In a name with letters written from right to left, all labels must be such that their
characters stay together when the name is shown.
-/

set_option autoImplicit false

namespace Custody.Domain

open Text

/-! ### Joiners -/

/-- Whether the nearest character that is not transparent is in one of the runs. -/
def meets (runs : List Run) (cs : List Char) : Bool :=
  match cs.dropWhile isTransparent with
  | [] => false
  | c :: _ => inSome runs c

/-- The class of the marks that take a vowel away. -/
def vowelKiller : Nat := 9

/-- Whether a joiner may stand between what is before it (read backwards) and what is after it. -/
def mayJoin (c : Char) (before after : List Char) : Bool :=
  match before with
  | [] => false
  | last :: _ =>
    Normal.markClass last = vowelKiller
      || (c.toNat = 0x200c && meets (joinBoth ++ joinAfter) before
        && meets (joinBoth ++ joinBefore) after)

/-- Whether all joiners may stand where they stand. -/
def joinersFit (before : List Char) : List Char → Bool
  | [] => true
  | c :: rest =>
    ((c.toNat ≠ 0x200c && c.toNat ≠ 0x200d) || mayJoin c before rest)
      && joinersFit (c :: before) rest

/-! ### Directions -/

/-- Whether the text calls for its name to be looked at for directions. -/
def turns (cs : List Char) : Bool :=
  cs.any fun c => direction c = .right || direction c = .arabicNumber

/-- Whether a label may stand in a name with letters written from right to left. -/
def directionsFit (label : List Char) : Bool :=
  let directions := label.map direction
  -- Marks at the end belong to the letter in front of them.
  let ending := (directions.reverse.dropWhile (· = .mark)).head?
  match directions with
  | [] => true
  | .left :: _ =>
    directions.all (fun d => d ≠ .right && d ≠ .arabicNumber)
      && (ending = some .left || ending = some .europeanNumber)
  | .right :: _ =>
    directions.all (· ≠ .left)
      && (ending = some .right || ending = some .europeanNumber || ending = some .arabicNumber)
      && !(directions.contains .europeanNumber && directions.contains .arabicNumber)
  | _ => false

/-! ### Labels -/

/-- Whether the characters of a label, taken by themselves, make one. -/
def isLabel (label : List Char) : Bool :=
  label.all isSettled && normal label = label && !(label.head?.map isMark).getD false
    && joinersFit [] label

end Custody.Domain
