import Custody.Json.Parse
import Custody.Store

/-!
# `Custody.Cli.StoreFile`: a store as files

A store is a directory. One file in it tells the form that the others have; another one keeps
all that the store holds, as one JSON object whose members are its keys and what they hold. Only
texts are kept.
-/

set_option autoImplicit false

namespace Custody.Store

/-- The directory of the store, in the data directory. -/
def directoryName : String := "wallet.db"

/-- The file that keeps what the store holds. -/
def fileName : String := "db"

/-- The file that tells the form of the others. -/
def formName : String := "conf"

/-- The name under which the form is written before it takes its own. -/
def draftName : String := "conf.tmp"

/-- The directory for what is too large for a file. -/
def blobsName : String := "blobs"

/-- The path of the store in a data directory. -/
def pathIn (dataDir : String) : String :=
  let last := dataDir.toList.getLast?
  if last = none ∨ last = some '/' then dataDir ++ directoryName
  else dataDir ++ "/" ++ directoryName

/-- The text of the file. -/
def toFile (store : Store) : String :=
  (Json.Value.ofMembers <| store.slots.filterMap fun (key, slot) =>
    match slot with
    | .text s => some (key, .text s)
    | .blob => none).compact

/-- A member of the file as a slot. -/
def slot? : Json.Spelled × Json.Value → Option (String × Slot)
  | (some key, .string (some s)) => some (key, .text s)
  | _ => none

/-- The store of a file. -/
def ofFile? (text : String) : Option Store :=
  match Json.parse text with
  | some (.object members) =>
    (members.mapM slot?).map fun slots => { empty with slots }
  | _ => none

end Custody.Store
