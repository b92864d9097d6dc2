import Std.Async.DNS
import Std.Async.Select
import Std.Async.Signal
import Std.Async.TCP
import Std.Sync.CancellationToken
import Std.Time
import SignalStub.Http.Wire
import SignalStub.Stub.Program

/-! # The command

    The outer layer of the program: it passes the variables and the arguments on, prints what the
    stages report, and connects the service to a socket. Every connection carries one request.
-/

namespace SignalStub.Main

open Std.Async Std.Net
open Http Log Program

/-! ## Console -/

/-- The time in the form that console lines begin with. -/
def timeText : IO String := do
  let now := Std.Time.DateTime.ofTimestamp (← Std.Time.Timestamp.now) Std.Time.TimeZone.ZoneRules.UTC
  return now.format "uuuu-MM-dd'T'HH:mm:ss.SSSSSS'Z'"

/-- Prints the events that the filter shows. -/
def report (filter : Filter) (events : List Event) : IO Unit := do
  for event in events do
    if filter.shows event then
      IO.println (event.lineAt (← timeText))

/-- Prints what is left to tell at the end, and answers the exit code. -/
def conclude (finish : Finish) : IO UInt32 := do
  IO.print finish.help
  IO.eprint finish.stderr
  return UInt32.ofNat finish.exitCode

/-- The variables of the process. -/
def processVariables : IO Environment := do
  let bytes ← IO.FS.readBinFile "/proc/self/environ"
  let text := (String.fromUTF8? bytes).getD ""
  return (text.splitOn "\x00").filterMap fun assignment =>
    match (assignment.splitOn "=") with
    | name :: value :: rest => some (name, "=".intercalate (value :: rest))
    | _ => none

/-! ## Connections -/

/-- The end of the head of a request, if it has arrived. -/
def headEnd? (bytes : ByteArray) : Option Nat :=
  (List.range (bytes.size - 3)).find? fun i =>
    bytes.get! i == 13 && bytes.get! (i + 1) == 10 && bytes.get! (i + 2) == 13 &&
      bytes.get! (i + 3) == 10

/-- The largest head that is read. -/
def maxHead : Nat := 65536

/-- Reads the head of a request; answers it with the number of bytes behind it. -/
partial def readHead (client : TCP.Socket.Client) (bytes : ByteArray) :
    Async (Option (String × Nat)) := do
  match headEnd? bytes with
  | some size =>
    return (String.fromUTF8? (bytes.extract 0 size)).map fun text => (text, bytes.size - size - 4)
  | none =>
    if maxHead < bytes.size then return none
    match ← client.recv? 4096 with
    | some more => readHead client (bytes ++ more)
    | none => return none

/-- Reads the rest of a body and drops it. -/
partial def skipBody (client : TCP.Socket.Client) (size : Nat) : Async Unit := do
  if 0 < size then
    match ← client.recv? 4096 with
    | some more => skipBody client (size - more.size)
    | none => return

/-- The response to what is no request. -/
def badRequest : Response := .empty 400 []

/-- Sends the response of a connection, and ends the connection. -/
def respond (client : TCP.Socket.Client) (response : Response) : Async Unit := do
  client.send response.wire.toUTF8
  client.shutdown

/-- What a session acts on that has one connection. Connections share the source. -/
def connection (filter : Filter) (source : IO.Ref Generator) (router : Route.Router Endpoint)
    (client : TCP.Socket.Client) : Session.Actions Async where
  call request := do
    let (outcome, events) ← source.modifyGet fun state =>
      match answer Generator.source router request state with
      | (.ok reply, state) => ((.ok reply.response, reply.events), state)
      | (.error fault, state) => ((.error fault, []), state)
    report filter events
    return outcome
  reply
    | .answered response => respond client response
    | .malformed _ => respond client badRequest
    | .unanswered _ => client.shutdown
    | .unreachable => client.shutdown
  await := return

/-- Has a session with the one message of a connection. -/
def serveClient (filter : Filter) (source : IO.Ref Generator) (router : Route.Router Endpoint)
    (client : TCP.Socket.Client) : Async Unit := do
  let some (text, arrived) ← readHead client .empty | return
  match Head.ofText? text with
  | none => respond client badRequest
  | some head =>
    skipBody client (head.bodyLength - arrived)
    let draft : Draft :=
      { method := head.method, uri := head.uri, headers := head.headers, body := "" }
    let session := HttpServer.message draft (.finish (.ok ()))
    discard <| session.run (connection filter source router client)

/-! ## The process as a host -/

/-- The addresses that a text stands for: a host, a colon and a port. -/
def addresses (text : String) : Async (Array SocketAddress) := do
  let parts := text.splitOn ":"
  let port := UInt16.ofNat ((parts.getLastD "").toNat?.getD 0)
  let found ← DNS.getAddrInfo (":".intercalate parts.dropLast) port.toNat.repr
  return found.map fun
    | .v4 addr => .v4 ⟨addr, port⟩
    | .v6 addr => .v6 ⟨addr, port⟩

/-- An address as it is shown. -/
def addressText : SocketAddress → String
  | .v4 address => Settings.address address.addr.toString address.port
  | .v6 address => Settings.address ("[" ++ address.addr.toString ++ "]") address.port

/-- Why an address was not granted. -/
def bindReason : IO.Error → String
  | .resourceBusy _ _ => "Address already in use (os error 98)"
  | error => toString error

/-- Listens on the first address that the machine grants. -/
def openServer (text : String) : Async TCP.Socket.Server := do
  let server ← TCP.Socket.Server.mk
  let some address := (← addresses text)[0]? |
    throw (IO.userError "could not resolve to any addresses")
  server.bind address
  server.listen 1024
  return server

/-- Accepts connections until the server is told to stop. -/
partial def acceptAll (server : TCP.Socket.Server) (stop : Std.CancellationToken)
    (handle : TCP.Socket.Client → Async Unit) : Async Unit := do
  let goesOn ← Selectable.one #[
    .case server.acceptSelector fun client => do
      background (handle client)
      return true,
    .case stop.selector fun _ => return false]
  if goesOn then
    acceptAll server stop handle

/-- A signal as the process receives it. -/
def processSignal : ShutdownSignal → Signal
  | .interrupt => .sigint
  | .terminate => .sigterm

/-- The host of the process. -/
def host (filter : Filter) : Host TCP.Socket.Server Signal.Waiter Async where
  report event := report filter [event]
  entropy := do
    let seed := (← IO.getRandomBytes 8).foldl (fun n byte => n * 256 + byte.toUInt64) 0
    return .ofSeed seed
  bind address := do
    try
      let server ← openServer address
      return .ok (server, addressText (← server.getSockName))
    catch error =>
      return .error (bindReason error)
  firstHandled := do
    return if (← IO.rand 0 1) = 0 then .interrupt else .terminate
  handler signal := do
    try
      return .ok (← Signal.Waiter.mk (processSignal signal) true)
    catch error =>
      return .error (toString error)
  await waiters := do
    -- behind the waiters stands one that is never called, for a run that handles no signal
    let never ← Std.CancellationToken.new
    let calls := waiters.map fun waiter => .case waiter.selector pure
    Selectable.one (calls.toArray.push (.case never.selector pure))
  serve server router generator shutdown := do
    let source ← IO.mkRef generator
    let stop ← Std.CancellationToken.new
    let wait ← shutdown
    background do
      wait
      stop.cancel
    try
      acceptAll server stop (serveClient filter source router)
      return .ok ()
    catch error =>
      return .error (toString error)

/-- Runs the service until a signal stops it. -/
def serve (filter : Filter) (settings : Settings) : Async Finish := do
  return .ofEnding (← (host filter).listen settings)

end SignalStub.Main

open SignalStub in
/-- Runs the program. -/
def main (args : List String) : IO UInt32 := do
  let env ← Main.processVariables
  let filter := Program.filterOf env
  match Program.plan env args with
  | .finish outcome =>
    Main.report filter outcome.events
    Main.conclude outcome.finish
  | .serve settings events =>
    Main.report filter events
    Main.conclude (← (Main.serve filter settings).block)
