/-!
# `Custody.Domain.Punycode`: characters of all kinds in ASCII

A text is written as its ASCII characters, a hyphen, and a series of numbers in letters and
digits that say which characters go in, lowest code point first, and where. Each number counts
how many places (a place is a code point and a position among the characters that are already
there) are passed over since the last insertion. Its digits are weighted by thresholds that
follow a bias, and the bias follows the size of the numbers so far.
-/

set_option autoImplicit false

namespace Custody.Domain.Punycode

/-- The character of a digit: letters, then numerals. -/
def digit (n : Nat) : Char := if n < 26 then Char.ofNat (97 + n) else Char.ofNat (22 + n)

/-- The value of a digit. -/
def digit? (c : Char) : Option Nat :=
  if 'a' ≤ c ∧ c ≤ 'z' then some (c.toNat - 97)
  else if '0' ≤ c ∧ c ≤ '9' then some (c.toNat - 22)
  else none

/-- The least digit that is not the last one, at a position that is counted in steps of 36. -/
def threshold (bias position : Nat) : Nat := max 1 (min 26 (position - bias))

/-- The bias for numbers about as large as `delta`. -/
def biasOf (delta bias : Nat) : Nat :=
  if 455 < delta then biasOf (delta / 35) (bias + 36) else bias + 36 * delta / (delta + 38)
termination_by delta
decreasing_by exact Nat.div_lt_self (by omega) (by omega)

/-- The bias after a number, with as many characters there as there are then. -/
def adapt (delta size : Nat) (isFirst : Bool) : Nat :=
  let delta := if isFirst then delta / 700 else delta / 2
  biasOf (delta + delta / size) 0

/-- Where the writing and the reading of numbers stand. -/
structure State where
  /-- The code point of the last insertion. -/
  code : Nat := 128
  /-- The position behind it. -/
  position : Nat := 0
  bias : Nat := 72
  deriving DecidableEq, Repr

/-! ### Writing -/

/-- The digits of a number from a position on. -/
def numeral (bias position n : Nat) : List Char :=
  let t := threshold bias position
  if n < t then [digit n]
  else digit (t + (n - t) % (36 - t)) :: numeral bias (position + 36) ((n - t) / (36 - t))
termination_by n
decreasing_by
  have : 1 ≤ threshold bias position := Nat.le_max_left ..
  exact Nat.lt_of_le_of_lt (Nat.div_le_self ..) (by omega)

/-- The insertions that make a text out of its ASCII characters: code points, ascending, and the
position of each among the characters that are there before it. -/
def insertions (cs : List Char) : List (Nat × Nat) :=
  let later := cs.zipIdx.filter fun (c, _) => 128 ≤ c.toNat
  (later.map fun (c, i) => (c.toNat, (cs.take i).countP (· ≤ c))).mergeSort
    fun a b => a.1 ≤ b.1

/-- Writes insertions; `size` is the number of characters that are already there. -/
def writeAll (state : State) (size : Nat) : List (Nat × Nat) → List Char
  | [] => []
  | (code, position) :: rest =>
    let delta := (code - state.code) * (size + 1) + position - state.position
    numeral state.bias 36 delta
      ++ writeAll ⟨code, position + 1, adapt delta (size + 1) (state.code = 128
          && state.position = 0)⟩ (size + 1) rest

/-- A text in ASCII. -/
def encode (cs : List Char) : List Char :=
  let ascii := cs.filter fun c => c.toNat < 128
  ascii ++ (if ascii = [] then [] else ['-']) ++ writeAll {} ascii.length (insertions cs)

/-! ### Reading -/

/-- The largest number that is read. -/
def maxNumber : Nat := 0xffffffff

/-- Reads the digits of a number on top of `n`. -/
def readNumeral (bias position weight n : Nat) : List Char → Option (Nat × List Char)
  | [] => none
  | c :: rest =>
    match digit? c with
    | none => none
    | some d =>
      let t := threshold bias position
      -- Numbers that do not fit into 32 bits are refused before they are made.
      if (maxNumber - n) / weight < d then none
      else if d < t then some (n + d * weight, rest)
      else if maxNumber / (36 - t) < weight then none
      else readNumeral bias (position + 36) (weight * (36 - t)) (n + d * weight) rest

/-- Reading a numeral takes at least one character. -/
theorem length_of_readNumeral {bias position weight n m : Nat} {cs rest : List Char}
    (h : readNumeral bias position weight n cs = some (m, rest)) : rest.length < cs.length := by
  induction cs generalizing position weight n with
  | nil => cases h
  | cons c tail ih =>
    simp only [readNumeral] at h
    split at h
    · cases h
    · split at h
      · cases h
      · split at h
        · cases h; simp
        · split at h
          · cases h
          · exact Nat.lt_succ_of_lt (ih h)

/-- The character of a code point, if there is one. -/
def char? (n : Nat) : Option Char := if n.isValidChar then some (Char.ofNat n) else none

/-- Reads insertions and makes them. -/
def readAll (state : State) (made : List Char) (cs : List Char) : Option (List Char) :=
  match cs with
  | [] => some made
  | c :: tail =>
    match _h : readNumeral state.bias 36 1 state.position (c :: tail) with
    | none => none
    | some (n, rest) =>
      let size := made.length + 1
      let code := state.code + n / size
      match char? code with
      | none => none
      | some new =>
        let bias := adapt (n - state.position) size (state.position = 0)
        readAll ⟨code, n % size + 1, bias⟩ (made.insertIdx (n % size) new) rest
termination_by cs.length
decreasing_by exact length_of_readNumeral _h

/-- The text that an ASCII text spells. -/
def decode? (cs : List Char) : Option (List Char) :=
  let numbers := (cs.reverse.takeWhile (· ≠ '-')).reverse
  let ascii := (cs.take (cs.length - numbers.length)).dropLast
  -- Without a hyphen, or with nothing in front of it, all of it is numbers.
  if ascii = [] then readAll {} [] cs else readAll {} ascii numbers

end Custody.Domain.Punycode
