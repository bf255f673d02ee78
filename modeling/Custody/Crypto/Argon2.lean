import Custody.Crypto.Argon2.Memory
import Custody.Crypto.Blake2b

/-!
# `Custody.Crypto.Argon2`: the Argon2id password hash

RFC 9106, version 0x13, without a secret and without associated data. The memory is a matrix
of cells with one row per lane; a lane is cut into four slices, and the segments of one slice
are filled lane after lane, since a segment never reads another segment of its own slice.

Each new cell is compressed from the cell before it and one more cell of the memory, chosen by
64 pseudo-random bits (`Segment.choose`). In the first half of the first pass these bits do
not depend on the password; afterwards they are the first word of the cell before.
-/

set_option autoImplicit false

namespace Custody.Crypto.Argon2

/-- What a password hash may cost: KiB of memory, passes over it, and lanes. -/
structure Cost where
  memory : Nat
  passes : Nat
  lanes : Nat

namespace Cost

/-- Cells in one segment: the quarter of a lane that belongs to one slice. -/
def segmentLength (cost : Cost) : Nat := cost.memory / (4 * cost.lanes)

/-- Cells in one lane. -/
def laneLength (cost : Cost) : Nat := 4 * cost.segmentLength

/-- Cells in all: the memory rounded down to whole segments. -/
def cells (cost : Cost) : Nat := cost.lanes * cost.laneLength

end Cost

/-- A number as four bytes, lowest first. -/
def le32 (n : Nat) : Bytes := Bytes.ofNatLE 4 n

/-- The variable-length hash: `count` more halves of a chain of digests, then the rest. -/
def stretch (size : Nat) : (count : Nat) → (digest : Bytes) → Bytes
  | 0, digest => Blake2b.digest size digest
  | count + 1, digest =>
    let digest := Blake2b.digest 64 digest
    digest.take 32 ++ stretch (size - 32) count digest

/-- The hash of any length. Above 64 bytes, all but the end comes in halves of 32 bytes. -/
def hash (size : Nat) (message : Bytes) : Bytes :=
  if size ≤ 64 then Blake2b.digest size (le32 size ++ message)
  else stretch size ((size + 31) / 32 - 2) (le32 size ++ message)

/-- A segment: the part of one lane that one slice of one pass fills. -/
structure Segment where
  pass : Nat
  slice : Nat
  lane : Nat

namespace Segment

/-- The bits that choose are computed ahead, and so do not depend on the password, in the
first half of the first pass. -/
def independent (s : Segment) : Bool := s.pass = 0 && s.slice < 2

/-- The choosing words of an independent segment: a counter, compressed twice with zero. -/
def addresses (s : Segment) (cost : Cost) : Array UInt64 :=
  let cell (counter : Nat) : Cell :=
    let head := [s.pass, s.lane, s.slice, cost.cells, cost.passes, 2, counter].map UInt64.ofNat
    Cell.zero.compress (Cell.zero.compress (Cell.ofWords head))
  ((List.range ((cost.segmentLength + 127) / 128)).flatMap fun i => (cell (i + 1)).words).toArray

/-- The index in the memory of the cell that the word `bits` chooses for position `i`. Its high
half picks the lane; its low half picks, with a preference for late cells, one of the cells of
that lane that are finished and not older than one pass. -/
def choose (s : Segment) (cost : Cost) (i : Nat) (bits : UInt64) : Nat :=
  let low := (bits &&& 0xffffffff).toNat
  let high := (bits >>> 32).toNat
  let lane := if s.pass = 0 && s.slice = 0 then s.lane else high % cost.lanes
  let finished :=
    if s.pass = 0 then s.slice * cost.segmentLength else cost.laneLength - cost.segmentLength
  -- The cell before enters anyway and is not chosen: it is left out in the own lane, and in
  -- every lane at the start of a segment.
  let area :=
    if lane = s.lane then finished + i - 1
    else if i = 0 then finished - 1
    else finished
  -- Squaring favours small distances, which are late cells.
  let back := area * (low * low / UInt32.size) / UInt32.size
  let start :=
    if s.pass = 0 then 0 else ((s.slice + 1) % 4) * cost.segmentLength
  lane * cost.laneLength + (start + (area - 1 - back)) % cost.laneLength

/-- Fills position `i` of the segment. From the second pass on the new cell is added to the
one it replaces. -/
def fillCell (s : Segment) (cost : Cost) (addresses : Array UInt64) (memory : Array Cell)
    (i : Nat) : Array Cell :=
  let column := s.slice * cost.segmentLength + i
  let row := s.lane * cost.laneLength
  -- The first cell of a lane follows its last one, in a circle.
  let before := memory.getD (row + (column + cost.laneLength - 1) % cost.laneLength) Cell.zero
  let bits := if s.independent then addresses.getD i 0 else before.r0.w0
  let new := before.compress (memory.getD (s.choose cost i bits) Cell.zero)
  let new := if s.pass = 0 then new else new.xor (memory.getD (row + column) Cell.zero)
  memory.setIfInBounds (row + column) new

/-- Fills the segment in order. The first two cells of a lane are there from the start. -/
def fill (s : Segment) (cost : Cost) (memory : Array Cell) : Array Cell :=
  let addresses := if s.independent then s.addresses cost else #[]
  -- The two cells that are there from the start are left out.
  let first := if s.pass = 0 && s.slice = 0 then 2 else 0
  (List.range' first (cost.segmentLength - first)).foldl (s.fillCell cost addresses) memory

end Segment

/-- All segments in the order in which they are filled. -/
def segments (cost : Cost) : List Segment :=
  (List.range cost.passes).flatMap fun pass =>
    (List.range 4).flatMap fun slice =>
      (List.range cost.lanes).map fun lane => ⟨pass, slice, lane⟩

/-- The memory before the first pass: the first two cells of every lane come from the seed. -/
def start (cost : Cost) (seed : Bytes) : Array Cell :=
  (List.range cost.lanes).foldl (fun memory lane =>
    [0, 1].foldl (fun memory i =>
      memory.setIfInBounds (lane * cost.laneLength + i)
        (Cell.ofBytes (hash 1024 (seed ++ le32 i ++ le32 lane)))) memory)
    (Array.replicate cost.cells Cell.zero)

/-- The sum of the last cells of all lanes. -/
def final (cost : Cost) (memory : Array Cell) : Cell :=
  (List.range cost.lanes).foldl (fun sum lane =>
    sum.xor (memory.getD (lane * cost.laneLength + cost.laneLength - 1) Cell.zero)) Cell.zero

/-- The Argon2id tag of `size` bytes. -/
def derive (cost : Cost) (size : Nat) (password salt : Bytes) : Bytes :=
  let seed := Blake2b.digest 64 <|
    [cost.lanes, size, cost.memory, cost.passes, 0x13, 2, password.length].flatMap le32
      ++ password ++ le32 salt.length ++ salt ++ le32 0 ++ le32 0
  let memory := (segments cost).foldl (fun memory s => s.fill cost memory) (start cost seed)
  hash size (final cost memory).bytes

end Custody.Crypto.Argon2
