import Custody.Cli.Run
import Custody.Cli.StoreFile
import Custody.Http.Message
import Std.Async.DNS
import Std.Async.TCP
import Std.Time.DateTime

/-!
# `Custody.Main`: the program

Reads the command line and the environment, hands them to `Cli.Invocation.parse`, and does for
the task that comes of it what only the outside world can do: the clock, random bytes, the file
of the store and connections to the ledger, which are plain ones.
-/

set_option autoImplicit false

namespace Custody.Program

open Std.Async

/-- Everything that comes over a connection until it is closed. -/
partial def receive (socket : TCP.Socket.Client) (received : ByteArray) : Async ByteArray := do
  match ← socket.recv? 65536 with
  | none => return received
  | some bytes => receive socket (received ++ bytes)

/-- The socket address of a host and a port. -/
def socketAddress (host : Std.Net.IPAddr) (port : UInt16) : Std.Net.SocketAddress :=
  match host with
  | .v4 address => .v4 ⟨address, port⟩
  | .v6 address => .v6 ⟨address, port⟩

/-- Asks the server at an address. -/
def ask (address : Std.Net.SocketAddress) (request : Http.Request) : Async ByteArray := do
  let socket ← TCP.Socket.Client.mk
  socket.connect address
  socket.send request.encode.toByteArray
  receive socket .empty

/-- The network: one connection for each request. -/
def network : Http.Network IO := fun request => do
  let url := request.url
  if url.scheme ≠ "http" then return none
  let port := UInt16.ofNat ((url.port <|> Http.defaultPort? url.scheme).getD 0)
  try
    let hosts ← (DNS.getAddrInfo ((url.host.map Http.Host.lookupName).getD "") "").block
    match hosts[0]? with
    | none => return none
    | some host =>
      let bytes ← (ask (socketAddress host port) request).block
      return Http.Response.decode? bytes.toList
  catch _ => return none

/-- The time on the clock. -/
def now : IO Time.Instant := do
  let t ← Std.Time.Timestamp.now
  let nanos := t.toNanosecondsSinceUnixEpoch.val
  let parts := Time.Instant.ofParts? (nanos / Time.second) (nanos % Time.second).toNat
  return parts.getD .epoch

/-- Random bytes, more than any command draws. -/
def tape : IO Tape := do
  return .ofBytes (← IO.getRandomBytes 256).toList

/-- The store in a file. -/
def loadStore (file : String) : IO Store := do
  try
    match Store.ofFile? (← IO.FS.readFile file) with
    | some store => return store
    | none => throw (IO.userError "the file is damaged")
  catch e =>
    match e with
    | .noFileOrDirectory .. => return .empty
    | _ => throw e

/-- Opens the store in a directory, and makes it if it is missing. -/
def openStore (path : String) : IO Store := do
  IO.FS.createDirAll (path ++ "/" ++ Store.blobsName)
  IO.FS.writeFile (path ++ "/" ++ Store.draftName) "json\n"
  IO.FS.rename (path ++ "/" ++ Store.draftName) (path ++ "/" ++ Store.formName)
  loadStore (path ++ "/" ++ Store.fileName)

/-- Prints output and gives the exit code. -/
def emit (output : Cli.Output) : IO UInt32 := do
  IO.print output.text
  if let some text := output.errorText then IO.eprint text
  return UInt32.ofNat output.code

/-- Makes the data directory, for its owner alone. -/
def makeDirectory (path : String) : IO Unit := do
  IO.FS.createDirAll path
  let owner : IO.AccessRight := { read := true, write := true, execution := true }
  IO.setAccessRights path { user := owner }

/-- Runs a step on the store of a data directory. -/
def runStep (invocation : Cli.Invocation) (step : Cli.Step IO) : IO UInt32 := do
  try makeDirectory invocation.dataDir
  catch e => return ← emit (invocation.noDirectory (toString e))
  let path := Store.pathIn invocation.dataDir
  let opened ← (openStore path).toBaseIO
  match opened with
  | .error e => emit (invocation.noStore (toString e))
  | .ok store =>
    let (output, world) ← step ⟨store, ← now, ← tape⟩
    if world.store.journal ≠ [] then
      IO.FS.writeFile (path ++ "/" ++ Store.fileName) world.store.toFile
    emit output

/-- The variables of the environment that are set. -/
def environment : IO (List (String × String)) :=
  Cli.Invocation.environmentNames.filterMapM fun name => do
    return (← IO.getEnv name).map fun value => (name, value)

/-- Says why there is nothing to run. -/
def explain (e : Cli.UsageError) : IO UInt32 := do
  match e with
  | .help => IO.print Cli.Invocation.usage
  | .version text => IO.println text
  | _ => IO.eprint ("error: " ++ e.message ++ "\n\n" ++ Cli.Invocation.usage)
  return UInt32.ofNat e.code

end Custody.Program

/-- Runs the command that the arguments and the environment ask for. -/
def main (arguments : List String) : IO UInt32 := do
  match Custody.Cli.Invocation.parse (← Custody.Program.environment) arguments with
  | .error e => Custody.Program.explain e
  | .ok invocation =>
    match invocation.task Custody.Program.network with
    | .print output => Custody.Program.emit output
    | .onWallet step => Custody.Program.runStep invocation step
