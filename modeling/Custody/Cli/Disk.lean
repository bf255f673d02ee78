import Custody.Cli.StoreFile

/-!
# `Custody.Cli.Disk`: where wallets are kept

Every data directory has a store of its own, which is a directory in it. A directory that is
missing is made, and so are those above it. That fails where something on the way is a file, or
a name is longer than names may be; a store is not opened where a directory stands in the place
of one of its files. Paths are compared by where they lead.
-/

set_option autoImplicit false

namespace Custody.Cli

/-- Where a path leads: the names on the way, from the root or from the working directory. -/
structure Place where
  fromRoot : Bool
  names : List String
  deriving DecidableEq, Repr

namespace Place

/-- Follows one name. -/
def enter (place : Place) (name : String) : Place :=
  if name = "" ∨ name = "." then place
  else if name = ".." then
    -- Nothing is above the root. Above the working directory, each step up is kept.
    match place.fromRoot, place.names.getLast? with
    | true, none => place
    | false, none => { place with names := [".."] }
    | false, some ".." => { place with names := place.names ++ [".."] }
    | _, some _ => { place with names := place.names.dropLast }
  else { place with names := place.names ++ [name] }

/-- The names in a path. -/
def namesOf (path : String) : List String :=
  (path.toList.splitOn '/').map String.ofList

/-- Where a path starts. -/
def origin (path : String) : Place := ⟨path.toList.head? = some '/', []⟩

end Place

/-- Why a file or a directory could not be made. -/
inductive DiskError where
  | fileExists
  | notADirectory
  | isADirectory
  | nameTooLong
  deriving DecidableEq, Repr

/-- What the system says of it. -/
def DiskError.message : DiskError → String
  | .fileExists => "File exists (os error 17)"
  | .notADirectory => "Not a directory (os error 20)"
  | .isADirectory => "Is a directory (os error 21)"
  | .nameTooLong => "File name too long (os error 36)"

/-- What stands where, and the stores by their data directories. -/
structure Disk where
  files : List Place
  directories : List Place
  stores : List (Place × Store)

namespace Disk

/-- Work on a disk that may fail. What it has made by then stays. -/
abbrev Work (α : Type) := ExceptT DiskError (StateM Disk) α

/-- Does some work. -/
def perform {α : Type} (disk : Disk) (work : Work α) : Except DiskError α × Disk := work disk

/-- A disk without stores. There is nothing on it but devices. -/
def empty : Disk :=
  ⟨["null", "zero", "full", "random", "urandom"].map fun name => ⟨true, ["dev", name]⟩, [], []⟩

/-- Bytes that a name may have. -/
def maxName : Nat := 255

/-- Bytes that a path may have. -/
def maxPath : Nat := 4095

/-- Fails on a path that is too long. -/
def checkPath (path : String) : Work Unit :=
  if maxPath < path.utf8ByteSize then throw .nameTooLong else return

/-- Puts a directory where there is none. -/
def addDirectory (disk : Disk) (place : Place) : Disk :=
  { disk with directories := disk.directories.insert place }

/-- Puts a file where there is none. -/
def addFile (disk : Disk) (place : Place) : Disk :=
  { disk with files := disk.files.insert place }

/-- Makes the directories on the way through some names. -/
def descend (place : Place) : List String → Work Place
  | [] => do
    if place ∈ (← get).files then throw .fileExists
    modify (addDirectory · place)
    return place
  | name :: rest => do
    if place ∈ (← get).files then
      -- With nothing but slashes left, the file stands where the directory would be made.
      throw (if (name :: rest).all (· = "") then .fileExists else .notADirectory)
    modify (addDirectory · place)
    if maxName < name.utf8ByteSize then throw .nameTooLong
    descend (place.enter name) rest

/-- Makes the directory of a path. -/
def makeDirectory (path : String) : Work Place := do
  checkPath path
  descend (.origin path) (Place.namesOf path)

/-- Makes a file, or opens the one there is. -/
def makeFile (path : String) (place : Place) : Work Unit := do
  checkPath path
  if place ∈ (← get).directories then throw .isADirectory
  modify (addFile · place)

/-- The store in a directory; a new one holds nothing. -/
def storeAt (disk : Disk) (place : Place) : Store := (disk.stores.lookup place).getD .empty

/-- Opens the store in a data directory. There is none where the file that tells its form cannot
be read. The form is written under another name first, where it is missing. -/
def openStore (dataDir : String) (place : Place) : Work (Option Store) := do
  let path := Store.pathIn dataDir ++ "/"
  let home := place.enter Store.directoryName
  let form := home.enter Store.formName
  checkPath (path ++ Store.blobsName)
  modify fun disk => (disk.addDirectory home).addDirectory (home.enter Store.blobsName)
  if form ∈ (← get).directories then return none
  unless form ∈ (← get).files do
    checkPath (path ++ Store.draftName)
    if home.enter Store.draftName ∈ (← get).directories then throw .isADirectory
    modify (addFile · form)
  makeFile (path ++ Store.fileName) (home.enter Store.fileName)
  return some ((← get).storeAt place)

/-- Keeps the store of a data directory. -/
def keep (disk : Disk) (place : Place) (store : Store) : Disk :=
  { disk with stores := (place, store) :: disk.stores.filter fun (other, _) => other ≠ place }

end Disk

end Custody.Cli
