import Custody.Bytes

/-!
# `Custody.Tape`: random bytes

Randomness is an endless tape of bytes, read once from where it stands. Salts, nonces and the
entropy of new phrases are drawn from it in a fixed order, so that a tape settles what a
command does.
-/

set_option autoImplicit false

namespace Custody

/-- An endless supply of bytes, and how many of them have been drawn. -/
structure Tape where
  byte : Nat → UInt8
  drawn : Nat

namespace Tape

/-- The tape that repeats the given bytes. -/
def ofBytes (bytes : Bytes) : Tape :=
  let cycle := bytes.toArray
  ⟨fun i => cycle.getD (i % cycle.size) 0, 0⟩

/-- The next `count` bytes. -/
def draw (count : Nat) (tape : Tape) : Bytes × Tape :=
  ((List.range count).map fun i => tape.byte (tape.drawn + i),
   { tape with drawn := tape.drawn + count })

/-- The next `count` bytes as a block. -/
def drawBlock (count : Nat) (tape : Tape) : Block count × Tape :=
  let (bytes, tape) := tape.draw count
  (bytes.toBlock count, tape)

end Tape

end Custody
