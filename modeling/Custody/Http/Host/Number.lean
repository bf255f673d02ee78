/-!
# `Custody.Http.Host.Number`: hosts by number

An address of four bytes is written as up to four numbers, in base ten, eight (behind a zero) or
sixteen (behind `0x`); the last number stands for all bytes that are left. An address of eight
pieces of sixteen bits is written in base sixteen with colons, with two colons for one run of
zeros, and perhaps with the last two pieces as four bytes.
-/

set_option autoImplicit false

namespace Custody.Http

/-! ### Four bytes -/

/-- The value of a digit of base sixteen. -/
def hexValue? (c : Char) : Option Nat :=
  if c.isDigit then some (c.toNat - 48)
  else if 'a' ≤ c ∧ c ≤ 'f' then some (c.toNat - 87)
  else if 'A' ≤ c ∧ c ≤ 'F' then some (c.toNat - 55)
  else none

/-- The number that digits of a base spell; none at all spell zero. -/
def ofDigits? (base : Nat) (cs : List Char) : Option Nat :=
  cs.foldlM (fun n c => do
    let d ← hexValue? c
    if d < base then some (base * n + d) else none) 0

/-- The number of a part of an address. -/
def part? : List Char → Option Nat
  | [] => none
  | '0' :: 'x' :: digits => ofDigits? 16 digits
  | '0' :: 'X' :: digits => ofDigits? 16 digits
  | '0' :: digits => ofDigits? 8 digits
  | digits => ofDigits? 10 digits

/-- The parts between dots; a dot at the end is left out. -/
def partsOf (cs : List Char) : List (List Char) :=
  let parts := cs.splitOn '.'
  if parts.getLast? = some [] then parts.dropLast else parts

/-- Whether a name can only be meant as a number. -/
def endsInNumber (cs : List Char) : Bool :=
  match (partsOf cs).getLast? with
  | none => false
  | some last => (last ≠ [] && last.all Char.isDigit) || (part? last).isSome

/-- The number of parts: one byte each, and the last one for the bytes that are left. -/
def ofParts? (parts : List Nat) : Option Nat :=
  match parts.getLast? with
  | none => none
  | some last =>
    let firsts := parts.dropLast
    if 3 < firsts.length ∨ firsts.any (255 < ·)
        ∨ 256 * 0xffffff + 255 < last <<< (8 * firsts.length)
    then none
    else some (firsts.zipIdx.foldl (fun n (b, i) => n + b <<< (8 * (3 - i))) last)

/-- The address of four bytes that a name stands for. -/
def fourBytes? (cs : List Char) : Option Nat := ((partsOf cs).mapM part?).bind ofParts?

/-- An address of four bytes. -/
def renderFourBytes (address : Nat) : String :=
  ".".intercalate ([24, 16, 8, 0].map fun shift => toString (address >>> shift % 256))

/-! ### Eight pieces -/

/-- A byte in base ten, without zeros in front. -/
def decimalByte? (cs : List Char) : Option Nat :=
  match cs with
  | [] => none
  | '0' :: _ :: _ => none
  | _ => if cs.all Char.isDigit then (ofDigits? 10 cs).filter (· ≤ 255) else none

/-- The two pieces that four bytes in base ten make. -/
def twoPieces? (cs : List Char) : Option (List Nat) :=
  match (cs.splitOn '.').mapM decimalByte? with
  | some [a, b, c, d] => some [256 * a + b, 256 * c + d]
  | _ => none

/-- Pieces that have been read, and after how many of them the run of zeros ends. -/
structure Pieces where
  read : List Nat
  gap : Option Nat
  deriving DecidableEq, Repr

/-- Adds pieces. -/
def Pieces.add (pieces : Pieces) (more : List Nat) : Pieces :=
  { pieces with read := pieces.read ++ more }

/-- Adds a zero, with which the run of zeros ends. -/
def Pieces.addGap (pieces : Pieces) : Pieces := ⟨pieces.read ++ [0], some (pieces.read.length + 1)⟩

/-- Reads pieces; `cs` is where one starts, or the second of two colons. -/
def readPieces (pieces : Pieces) (cs : List Char) : Option Pieces :=
  if cs = [] then some pieces
  else if 8 ≤ pieces.read.length then none
  else match cs with
    | [] => some pieces
    | ':' :: rest => if pieces.gap.isSome then none else readPieces pieces.addGap rest
    | c :: tail =>
      let digits := ((c :: tail).take 4).takeWhile fun c => (hexValue? c).isSome
      match _h : (c :: tail).drop digits.length with
      | [] => some (pieces.add [(ofDigits? 16 digits).getD 0])
      | '.' :: _ =>
        if digits = [] ∨ 6 < pieces.read.length then none
        else (twoPieces? (c :: tail)).map pieces.add
      | ':' :: next :: rest =>
        readPieces (pieces.add [(ofDigits? 16 digits).getD 0]) (next :: rest)
      | _ => none
termination_by cs.length
decreasing_by
  · simp_all
  · have := congrArg List.length _h
    rw [List.length_drop] at this
    simp only [List.length_cons] at this ⊢
    omega

/-- The eight pieces: zeros fill the gap, and without one there have to be eight. -/
def Pieces.fill? (pieces : Pieces) : Option (List Nat) :=
  match pieces.gap with
  | none => if pieces.read.length = 8 then some pieces.read else none
  | some gap =>
    some (pieces.read.take gap ++ List.replicate (8 - pieces.read.length) 0
      ++ pieces.read.drop gap)

/-- The address of eight pieces that a text stands for. -/
def eightPieces? (cs : List Char) : Option (List Nat) :=
  let pieces := match cs with
    | ':' :: ':' :: rest => readPieces ⟨[0], some 1⟩ rest
    | ':' :: _ => none
    | _ => if cs.length < 2 then none else readPieces ⟨[], none⟩ cs
  pieces.bind Pieces.fill?

/-- The length of the run of zeros that starts with each piece. -/
def zeroRuns : List Nat → List Nat
  | [] => []
  | piece :: rest =>
    let runs := zeroRuns rest
    (if piece = 0 then (runs.headD 0) + 1 else 0) :: runs

/-- A piece in base sixteen. -/
def renderPiece (piece : Nat) : String := String.ofList (Nat.toDigits 16 piece)

/-- Pieces with colons between them. -/
def renderPieces (pieces : List Nat) : String := ":".intercalate (pieces.map renderPiece)

/-- An address of eight pieces. The first of the longest runs of more than one zero is left
out. -/
def renderEightPieces (pieces : List Nat) : String :=
  let runs := zeroRuns pieces
  let longest := runs.foldl max 0
  if longest < 2 then renderPieces pieces
  else
    let start := runs.idxOf longest
    renderPieces (pieces.take start) ++ "::" ++ renderPieces (pieces.drop (start + longest))

end Custody.Http
