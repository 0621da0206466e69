import GraphCourier.Http.Tape
import GraphCourier.Http.Wire
import GraphCourier.Program
import Std.Async.DNS
import Std.Async.TCP

/-!
# The command

The program on a real machine. What it does is `Program.start`; this module
reads files and variables, carries requests, and shows what comes out.

The program runs on a tape of what was delivered so far. When it leaves a
request open, that request is carried, and the program runs again on a tape
that is longer by one delivery. What it puts out up to an open request it puts
out again the next time, so each time only what is new is shown.

Requests are carried over TCP as they are. A server that wants to be spoken to
over TLS is not reached.
-/

namespace GraphCourier.Session

open Std.Async Std.Net

/-! ## Files and variables -/

/-- The variables that may override settings. -/
def variableNames : List String :=
  ["GRAPH_DRIVER_HOST", "GRAPH_DRIVER_PORT", "GRAPH_DRIVER_POLICY",
    "GRAPH_DRIVER_LOG_LEVEL"]

def environment : IO Environment :=
  variableNames.filterMapM fun name => do
    return (← IO.getEnv name).map fun value => (name, utf8 value)

def fileState (path : String) : IO FileState := do
  try
    return .file (← IO.FS.readBinFile path).toList
  catch
    | .inappropriateType _ 21 _ => return .closed .isDirectory
    | .permissionDenied .. => return .closed .denied
    | _ => return .missing

/-! ## Requests -/

def addresses (host : Url.Host) : Async (Array IPAddr) :=
  let name := match host with
    | .ipv6 pieces => Url.ipv6Text pieces
    | h => h.text
  DNS.getAddrInfo name ""

def place (port : UInt16) : IPAddr → SocketAddress
  | .v4 a => .v4 ⟨a, port⟩
  | .v6 a => .v6 ⟨a, port⟩

/-- Connects to the first of some places that can be reached. -/
def connect : List SocketAddress → Async TCP.Socket.Client
  | [] => throw (IO.userError "no address")
  | address :: others => do
    try
      let socket ← TCP.Socket.Client.mk
      socket.connect address
      return socket
    catch _ => connect others

/-- Receives what comes until the connection ends, in whatever way. -/
partial def receiveAll (socket : TCP.Socket.Client) (bytes : ByteArray) :
    Async ByteArray := do
  let more ← try socket.recv? 65536 catch _ => pure none
  match more with
  | some b => receiveAll socket (bytes ++ b)
  | none => return bytes

/-- Sends bytes to a host and receives what comes back. -/
def converse (host : Url.Host) (port : UInt16) (bytes : Bytes) :
    Async Bytes := do
  let found ← addresses host
  let socket ← connect (found.toList.map (place port))
  socket.send ⟨bytes.toArray⟩
  return (← receiveAll socket .empty).toList

def carry (r : Http.Request) : IO Http.Delivery := do
  match r.url.scheme, r.url.authority with
  | "http", some a =>
    try
      let port := UInt16.ofNat (a.port.getD 80)
      return .ofWire (← (converse a.host port r.wire).block)
    catch _ => return .lost
  | _, _ => return .lost

/-! ## Showing -/

def present (output : Bytes) (log : List LogLine) : IO Unit := do
  let stdout ← IO.getStdout
  stdout.write ⟨output.toArray⟩
  stdout.flush
  for line in log do
    IO.eprintln line.text

def presentFailure (f : Failure) : IO Unit := do
  IO.eprintln ("Error: " ++ f.message)
  if let some cause := f.cause then
    IO.eprintln ("\nCaused by:\n    " ++ cause)

/-- Runs a program on longer and longer tapes until it leaves no request open.
The first part of its output and of its log was shown before. -/
partial def play (program : Http.Tape → Finish Http.Tape)
    (deliveries : Array Http.Delivery) (output log : Nat) : IO UInt32 := do
  let done := program (.ofList deliveries.toList)
  present (done.output.drop output) (done.log.drop log)
  match done.state.opened with
  | some request =>
    let delivery ← carry request
    play program (deliveries.push delivery) done.output.length done.log.length
  | none =>
    done.failure.forM presentFailure
    return UInt32.ofNat done.exitCode

def start (arguments : List String) : IO UInt32 := do
  let home := (← IO.getEnv "HOME").filter (!·.isEmpty)
  let environment ← environment
  match CommandLine.parse arguments with
  | none =>
    IO.eprint CommandLine.usage
    return 2
  | some .help =>
    IO.print CommandLine.usage
    return 0
  | some wish =>
    let path? := match wish with
      | .invoke i => Program.settingsPath? home i.config
      | _ => none
    let file ← match path? with
      | some path => fileState path
      | none => pure .missing
    let world : Surroundings Http.Tape := {
      home := home
      files := fun _ => file
      environment := environment
      network := Http.Tape.network }
    play (Program.start world arguments) #[] 0 0

end GraphCourier.Session

def main (arguments : List String) : IO UInt32 :=
  GraphCourier.Session.start arguments
