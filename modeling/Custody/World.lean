import Custody.Store
import Custody.Tape
import Custody.Time.Instant

/-!
# `Custody.World`: what commands run in

A command reads and writes the store, looks at the clock and draws from the tape; that is all
it can do. It is a function from the world before to an answer and the world after, and where
it fails the writes it has made stay made.
-/

set_option autoImplicit false

namespace Custody

open Time

/-- The store, the clock and the source of randomness. -/
structure World where
  store : Store
  now : Instant
  tape : Tape

/-- A command that may fail. -/
abbrev Command (α : Type) := ExceptT WalletError (StateM World) α

namespace Command

/-- A command from the function it is. -/
def ofFun {α : Type} (f : World → Except WalletError α × World) : Command α := f

/-- The answer of a command and the world after it. -/
def runIn {α : Type} (command : Command α) (world : World) : Except WalletError α × World :=
  command world

/-- An answer that does not depend on the world. -/
def answer {α : Type} (result : Except WalletError α) : Command α :=
  ofFun fun world => (result, world)

/-- A call of the store. -/
def onStore {α : Type} (call : Store → Except StorageError α × Store) : Command α :=
  ofFun fun world =>
    match call world.store with
    | (.ok a, store) => (.ok a, { world with store })
    | (.error e, store) => (.error (.storage e), { world with store })

/-- Something that draws from the tape. -/
def onTape {α : Type} (draw : Tape → Except WalletError α × Tape) : Command α :=
  ofFun fun world =>
    let (result, tape) := draw world.tape
    (result, { world with tape })

/-- The text under a key. -/
def get (key : String) : Command (Option String) := onStore (·.get key)

/-- Puts a text under a key. -/
def set (key value : String) : Command Unit := onStore (·.set key value)

/-- Removes a key. -/
def delete (key : String) : Command Unit := onStore (·.delete key)

/-- The reading of the clock. -/
def now : Command Instant := ofFun fun world => (.ok world.now, world)

/-- A failure. -/
def fail {α : Type} (e : WalletError) : Command α := answer (.error e)

/-- The answer, or none if the command fails; what it wrote stays written. -/
def attempt {α : Type} (command : Command α) : Command (Option α) :=
  ofFun fun world =>
    match command.runIn world with
    | (.ok a, world) => (.ok (some a), world)
    | (.error _, world) => (.ok none, world)

end Command

end Custody
