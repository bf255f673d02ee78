import Custody.Json.Parse

/-!
# `Custody.Json.Record`: reading records from JSON values

A record is an object with known keys, or an array of exactly its fields in order. In an
object the keys may come in any order, unknown keys are passed over, a known key may not come
twice, and every key has to spell a text. What a field that is absent means is for the record
to say.
-/

set_option autoImplicit false

namespace Custody.Json.Value

/-- A natural number below a bound. -/
def natBelow? (bound : Nat) : Value → Option Nat
  | .nat n => if n < bound then some n else none
  | _ => none

/-- A number of one byte. -/
def uint8? (value : Value) : Option UInt8 := (value.natBelow? UInt8.size).map UInt8.ofNat

/-- A number of four bytes. -/
def uint32? (value : Value) : Option UInt32 := (value.natBelow? UInt32.size).map UInt32.ofNat

/-- A number of eight bytes. -/
def uint64? (value : Value) : Option UInt64 := (value.natBelow? UInt64.size).map UInt64.ofNat

/-- A truth value. -/
def bool? : Value → Option Bool
  | .bool b => some b
  | _ => none

/-- A text that is spelled without a lone surrogate. -/
def text? : Value → Option String
  | .string s => s
  | _ => none

/-- An array whose items are all read by `item`. -/
def list? {α : Type} (item : Value → Option α) : Value → Option (List α)
  | .array items => items.mapM item
  | _ => none

/-- A value, or `null` for none. -/
def optional? {α : Type} (read : Value → Option α) : Value → Option (Option α)
  | .null => some none
  | value => (read value).map some

/-- The members of an object whose keys all spell a text. -/
def keyed? : List (Spelled × Value) → Option (List (String × Value))
  | [] => some []
  | (none, _) :: _ => none
  | (some key, value) :: rest => (keyed? rest).map ((key, value) :: ·)

/-- The only member with this key, or none; a key that comes twice is refused. -/
def only? (name : String) (members : List (String × Value)) : Option (Option Value) :=
  match members.filter fun (key, _) => key = name with
  | [] => some none
  | [(_, value)] => some (some value)
  | _ => none

/-- The fields of a record, in the order of their names. -/
def fields? (names : List String) : Value → Option (List (Option Value))
  | .array items => if items.length = names.length then some (items.map some) else none
  | .object members =>
    match keyed? members with
    | none => none
    | some members => names.mapM fun name => only? name members
  | _ => none

/-- A field that has to be there. -/
def required? {α : Type} (read : Value → Option α) (field : Option Value) : Option α :=
  field.bind read

/-- A field that may be absent or `null`. -/
def absentOr? {α : Type} (read : Value → Option α) : Option Value → Option (Option α)
  | none => some none
  | some value => value.optional? read

end Custody.Json.Value
