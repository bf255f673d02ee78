import Custody.Crypto.Argon2
import Custody.Json.Record

/-!
# `Custody.Kdf`: the key under a password

A password and a random salt give the key that seals a secret. What the derivation costs is
stored beside each secret and is therefore not to be trusted: ceilings are checked before any
memory is filled, then the limits of the password hash itself.

One of these limits is left out. Argon2 refuses passwords of 2 ^ 32 bytes and more, with an error of
its own that has no counterpart in `Error`. Here such a password is hashed like any other.
-/

set_option autoImplicit false

namespace Custody.Kdf

open Json.Value (required? uint32?)

/-- The greatest memory, in KiB. -/
def maxMemory : Nat := 1048576

/-- The greatest number of passes. -/
def maxPasses : Nat := 16

/-- The greatest number of lanes. -/
def maxLanes : Nat := 16

/-- Bytes of a salt. -/
def saltLength : Nat := 16

/-- KiB of memory, passes over it, and lanes. -/
structure Cost where
  memory : UInt32
  passes : UInt32
  lanes : UInt32
  deriving DecidableEq, Repr

namespace Cost

/-- What a wallet seals with unless told otherwise: 19 MiB, two passes, one lane. -/
def standard : Cost := ⟨19456, 2, 1⟩

/-- The least that the password hash accepts. -/
def light : Cost := ⟨8, 1, 1⟩

/-- The cost as it is stored. -/
def toJson (cost : Cost) : Json.Value :=
  .ofMembers [("mCost", .nat cost.memory.toNat), ("tCost", .nat cost.passes.toNat),
    ("pCost", .nat cost.lanes.toNat)]

/-- The cost that was stored, if this is one. -/
def ofJson? (value : Json.Value) : Option Cost :=
  match value.fields? ["mCost", "tCost", "pCost"] with
  | some [memory, passes, lanes] => do
    some ⟨← required? uint32? memory, ← required? uint32? passes,
      ← required? uint32? lanes⟩
  | _ => none

end Cost

/-- Why a cost is refused. -/
inductive CostFault where
  | memoryAbove (memory : Nat)
  | passesAbove (passes : Nat)
  | lanesAbove (lanes : Nat)
  | memoryTooLow
  | passesTooLow
  | lanesTooLow
  deriving DecidableEq, Repr

/-- What is told of it. -/
def CostFault.message : CostFault → String
  | .memoryAbove memory =>
    "memory cost " ++ toString memory ++ " KiB exceeds " ++ toString maxMemory
  | .passesAbove passes => "time cost " ++ toString passes ++ " exceeds " ++ toString maxPasses
  | .lanesAbove lanes => "parallelism " ++ toString lanes ++ " exceeds " ++ toString maxLanes
  | .memoryTooLow => "memory cost is too small"
  | .passesTooLow => "time cost is too small"
  | .lanesTooLow => "not enough threads"

/-- Why no key was derived. -/
inductive Error where
  | cost (fault : CostFault)
  | saltLength (length : Nat)
  deriving DecidableEq, Repr

/-- What is told of it. -/
def Error.message : Error → String
  | .cost fault => "invalid argon2 parameters: " ++ fault.message
  | .saltLength length => "salt must be 16 bytes, got " ++ toString length

/-- Checks the ceilings: memory first, then passes, then lanes. -/
def Cost.checkCeilings (cost : Cost) : Except CostFault Unit :=
  if maxMemory < cost.memory.toNat then .error (.memoryAbove cost.memory.toNat)
  else if maxPasses < cost.passes.toNat then .error (.passesAbove cost.passes.toNat)
  else if maxLanes < cost.lanes.toNat then .error (.lanesAbove cost.lanes.toNat)
  else .ok ()

/-- Checks what the password hash needs: eight KiB, and eight for every lane, one pass and one
lane. -/
def Cost.checkFloors (cost : Cost) : Except CostFault Unit :=
  if cost.memory.toNat < 8 ∨ cost.memory.toNat < 8 * cost.lanes.toNat then .error .memoryTooLow
  else if cost.passes.toNat < 1 then .error .passesTooLow
  else if cost.lanes.toNat < 1 then .error .lanesTooLow
  else .ok ()

/-- The cost as the password hash takes it. -/
def Cost.toArgon2 (cost : Cost) : Crypto.Argon2.Cost :=
  ⟨cost.memory.toNat, cost.passes.toNat, cost.lanes.toNat⟩

/-- A password hash: the key of 32 bytes that a password and a salt have at a cost. It may live in
a monad of its own. -/
abbrev Hash (m : Type → Type) := Cost → String → Bytes → m (Block 32)

/-- Argon2id. -/
def argon2id : Hash Id := fun cost password salt =>
  Bytes.toBlock 32 (Crypto.Argon2.derive cost.toArgon2 32 (Bytes.ofText password) salt)

/-- The key under a password by some password hash. The salt is looked at first, then the cost, and
only then is there anything to hash. -/
def deriveKeyBy {m : Type → Type} [Monad m] (hash : Hash m) (password : String) (salt : Bytes)
    (cost : Cost) : m (Except Error (Block 32)) :=
  if salt.length ≠ saltLength then return .error (.saltLength salt.length)
  else match cost.checkCeilings with
    | .error fault => return .error (.cost fault)
    | .ok _ =>
      match cost.checkFloors with
      | .error fault => return .error (.cost fault)
      | .ok _ => return .ok (← hash cost password salt)

/-- The key of 32 bytes under a password. -/
def deriveKey (password : String) (salt : Bytes) (cost : Cost) : Except Error (Block 32) :=
  deriveKeyBy (m := Id) argon2id password salt cost

end Custody.Kdf
