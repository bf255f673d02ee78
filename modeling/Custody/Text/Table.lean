/-!
# `Custody.Text.Table`: what a standard says of characters

Tables over all of Unicode are kept as lines of words. In a table of runs a word is a code point
in hexadecimal, or the first and the last one of a run with a hyphen between them. In a table of
rows a line is a code point and then, for it and for those that follow it, one word each: the
characters that the table gives for it, or a hyphen where it gives none.
-/

set_option autoImplicit false

namespace Custody.Text

/-- The number that digits of base sixteen spell, in lower case. -/
def hexNumber (digits : String) : Nat :=
  digits.toList.foldl (fun n c => 16 * n + (if c.isDigit then c.toNat - 48 else c.toNat - 87)) 0

/-- First and last code point of a run of characters. -/
structure Run where
  first : Nat
  last : Nat
  deriving DecidableEq, Repr

/-- The run of a word. -/
def Run.ofWord (word : String) : Run :=
  match word.splitOn "-" with
  | [first, last] => ⟨hexNumber first, hexNumber last⟩
  | _ => ⟨hexNumber word, hexNumber word⟩

/-- The runs of some lines. -/
def runsOf (lines : List String) : List Run :=
  lines.flatMap fun line => (line.splitOn " ").map Run.ofWord

/-- Whether the character is in one of the runs. -/
def inSome (runs : List Run) (c : Char) : Bool :=
  runs.any fun run => run.first ≤ c.toNat && c.toNat ≤ run.last

/-- What a table gives for the characters from a code point on. -/
structure Row where
  start : Nat
  entries : Array (Option (List Char))

/-- The characters of a word, or none. -/
def Row.entry (word : String) : Option (List Char) :=
  if word = "-" then none
  else some ((word.splitOn "+").map fun digits => Char.ofNat (hexNumber digits))

/-- The row of a line. -/
def Row.ofLine (line : String) : Row :=
  match line.splitOn " " with
  | [] => ⟨0, #[]⟩
  | start :: words => ⟨hexNumber start, (words.map Row.entry).toArray⟩

/-- What the row gives for a character. -/
def Row.find? (row : Row) (c : Char) : Option (List Char) :=
  if c.toNat < row.start then none else (row.entries[c.toNat - row.start]?).join

/-- The rows of some lines. -/
def rowsOf (lines : List String) : List Row := lines.map Row.ofLine

/-- What some rows give for a character. -/
def findIn (rows : List Row) (c : Char) : Option (List Char) := rows.findSome? (·.find? c)

end Custody.Text
