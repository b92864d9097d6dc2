import SignalStub.Failure
import SignalStub.Settings.Load
import SignalStub.Stub.Server

/-! # Listening

    A run of the service makes its source of event ids and its routes, asks for its address, lets a
    server answer requests until a signal arrives, and stops. It can fail on the way in, if the
    address is refused, and on the way out, if the server ended for a reason.

    What such a run needs from what surrounds it is a host, and the run is the same whatever host it
    is on. The program runs on the host of its process. A run that is only recorded is on a host that
    knows beforehand what the surroundings will do.
-/

namespace SignalStub

open Http Log Randomness Route

/-! ## Signals -/

/-- The signals that stop a service. -/
inductive ShutdownSignal
  | interrupt
  | terminate
  deriving DecidableEq, Repr

namespace ShutdownSignal

/-- The other signal. -/
def other : ShutdownSignal → ShutdownSignal
  | .interrupt => .terminate
  | .terminate => .interrupt

/-- The name that a signal has in events. -/
def name : ShutdownSignal → String
  | .interrupt => "ctrl-c"
  | .terminate => "sigterm"

/-- The number of a signal. -/
def number : ShutdownSignal → Nat
  | .interrupt => 2
  | .terminate => 15

end ShutdownSignal

/-! ## Events of a run -/

/-- The event of a reproducible source. -/
def seededEvent (seed : UInt64) : Event where
  level := .info
  target := "ceh_signal_mock::pkg::ids"
  message := "using seeded event id source"
  fields := [("seed", .ofNat seed.toNat)]
  spans := []

/-- An event of the server itself. -/
def serverEvent (level : Level) (message : String) (fields : Fields) : Event where
  level := level
  target := "ceh_signal_mock::pkg::server"
  message := message
  fields := fields
  spans := []

/-- The event of a server that has its address. -/
def runningEvent (address path : String) : Event :=
  serverEvent .info "server running" [("addr", .shown address), ("path", .shown path)]

/-- The event of a signal whose handler cannot be set up. -/
def deafEvent (signal : ShutdownSignal) (reason : String) : Event :=
  serverEvent .warn ("failed to listen for " ++ signal.name) [("error", .shown reason)]

/-- The event of a received signal. -/
def shutdownEvent : Event := serverEvent .info "shutdown signal received" []

/-- The event of a server that has stopped. -/
def stoppedEvent : Event := serverEvent .info "server stopped" []

/-- The source of event ids for the settings, with the events of making it. -/
def makeSource (entropy : Words) (seed : Option UInt64) : Generator × List Event :=
  (Generator.ofSeed? entropy seed, (seed.map seededEvent).toList)

/-! ## Runs on a host -/

/-- How a run ends. -/
inductive Ending
  | stopped
  | failed (failure : Failure)
  /-- The write path is no route. Settings that were loaded have none such. -/
  | unroutable (fault : RouteFault)
  /-- A signal without a handler kills the process. -/
  | killed (signal : ShutdownSignal)
  deriving DecidableEq, Repr

/-- What a run asks of what surrounds it. An address that was granted has a listener, and a signal
    whose handler is set up has a waiter. -/
structure Host (Listener Waiter : Type) (m : Type → Type) where
  /-- Logs an event. -/
  report : Event → m Unit
  /-- The words of the thread's own generator. -/
  entropy : m Words
  /-- Asks for an address. What is granted is told together with the listener. -/
  bind : String → m (Except String (Listener × String))
  /-- The signal whose handler is set up first. -/
  firstHandled : m ShutdownSignal
  /-- Sets up the handler of a signal. -/
  handler : ShutdownSignal → m (Except String Waiter)
  /-- Waits until one of these handlers is called. -/
  await : List Waiter → m Unit
  /-- Lets a server answer requests with these routes and this source. The last argument is carried
      out when the server begins, and gives what the server waits for until it ends. -/
  serve : Listener → Router Endpoint → Generator → m (m Unit) → m (Except String Unit)

namespace Host

variable {Listener Waiter : Type} {m : Type → Type} [Monad m] (host : Host Listener Waiter m)

/-- Sets up the handler of one signal. A signal without a handler is told of, and not waited for. -/
def setUp (signal : ShutdownSignal) : m (Option Waiter) := do
  match ← host.handler signal with
  | .ok waiter => return some waiter
  | .error reason =>
    host.report (deafEvent signal reason)
    return none

/-- Sets up the handlers of both signals, and gives what waits for either. -/
def shutdownSignal : m (m Unit) := do
  let first ← host.firstHandled
  let one ← host.setUp first
  let another ← host.setUp first.other
  return do
    host.await (one.toList ++ another.toList)
    host.report shutdownEvent

/-- Ends a run with a failure, whose cause is told of. -/
def fail (code cause : String) : m Ending := do
  host.report (Failure.event code cause)
  return .failed (.ofCode code)

/-- Ends a run whose server has ended. -/
def conclude : Except String Unit → m Ending
  | .error reason => host.fail Failure.serveCode reason
  | .ok () => do
    host.report stoppedEvent
    return .stopped

/-- Runs the service with its settings until a signal stops it. -/
def listen (settings : Settings) : m Ending := do
  let (generator, events) := makeSource (← host.entropy) settings.idSeed
  events.forM host.report
  match serviceRoutes settings.writePath with
  | .error fault => return .unroutable fault
  | .ok router =>
    match ← host.bind settings.bindAddress with
    | .error reason => host.fail Failure.bindCode reason
    | .ok (listener, address) =>
      host.report (runningEvent address settings.writePath)
      host.conclude (← host.serve listener router generator host.shutdownSignal)

end Host

/-! ## Recorded runs -/

/-- What has been seen of a run so far. -/
structure Journal where
  exchanges : List Exchange
  events : List Event
  deriving DecidableEq, Repr

/-- What a run does to the journal. A signal without a handler ends it at once. -/
abbrev Recorded := ExceptT ShutdownSignal (StateM Journal)

namespace Recorded

/-- Logs events. -/
def log (events : List Event) : Recorded Unit :=
  modify fun journal => { journal with events := journal.events ++ events }

/-- Notes what a client sees. -/
def tell (exchange : Exchange) : Recorded Unit :=
  modify fun journal => { journal with exchanges := journal.exchanges ++ [exchange] }

/-- Waits for a signal among those that are handled. A signal that is not ends the run. -/
def await (signal : ShutdownSignal) (handled : List ShutdownSignal) : Recorded Unit :=
  if signal ∈ handled then return () else throw signal

/-- What a session acts on, if it calls a service with these routes and waits for `wait`. The state
    is that of the source. -/
def actions (router : Router Endpoint) (wait : Recorded Unit) :
    Session.Actions (StateT Generator Recorded) where
  call request := do
    match answer Generator.source router request (← get) with
    | (.ok reply, generator) =>
      set generator
      log reply.events
      return .ok reply.response
    | (.error fault, generator) =>
      set generator
      return .error fault
  reply exchange := tell exchange
  await := wait

end Recorded

/-- Everything around a run that has a part in it. -/
structure Surroundings where
  /-- The outcome of asking for an address: the address that is listened on, or a reason. -/
  bind : String → Except String String
  /-- The words of the thread's own generator. -/
  entropy : Words
  /-- The server between the clients and the service. -/
  server : HttpServer
  /-- The outcome of setting up the handler of a signal. -/
  handler : ShutdownSignal → Except String Unit
  /-- The signal whose handler is set up first. -/
  firstHandled : ShutdownSignal

namespace Surroundings

variable (around : Surroundings) (drafts : List Draft) (signal : ShutdownSignal)

/-- The host of a run in which clients send messages, one after the other, and then a signal. -/
def host : Host String ShutdownSignal Recorded where
  report event := Recorded.log [event]
  entropy := return around.entropy
  bind address := return (around.bind address).map fun granted => (granted, granted)
  firstHandled := return around.firstHandled
  handler signal := return (around.handler signal).map fun () => signal
  await := Recorded.await signal
  serve _ router generator shutdown := do
    let wait ← shutdown
    let session := around.server.session drafts
    return (← (session.run (Recorded.actions router wait)).run generator).1

end Surroundings

/-- A run of the service. -/
structure Run where
  ending : Ending
  exchanges : List Exchange
  events : List Event
  deriving DecidableEq, Repr

/-- The run of the service in its surroundings. -/
def Surroundings.listen (around : Surroundings) (settings : Settings) (drafts : List Draft)
    (signal : ShutdownSignal) : Run :=
  match ((around.host drafts signal).listen settings).run.run ⟨[], []⟩ with
  | (.ok ending, journal) => ⟨ending, journal.exchanges, journal.events⟩
  | (.error signal, journal) => ⟨.killed signal, journal.exchanges, journal.events⟩

/-! ## Machines -/

/-- What a machine contributes to a run of the program. -/
structure Machine where
  /-- The outcome of asking for an address: the address that is listened on, or a reason. -/
  bind : String → Except String String
  /-- Whether the clients' connections reach the server. -/
  reachable : Bool
  /-- The words of the thread's own generator. -/
  entropy : Words

/-- The surroundings on a machine: the program brings its own server, and the machine lets it handle
    the signals. -/
def Machine.surroundings (machine : Machine) : Surroundings where
  bind := machine.bind
  entropy := machine.entropy
  server := if machine.reachable then .plain else .unreached
  handler _ := .ok ()
  firstHandled := .interrupt

/-- Runs the service on a machine. -/
def listen (machine : Machine) (settings : Settings) (drafts : List Draft)
    (signal : ShutdownSignal) : Run :=
  machine.surroundings.listen settings drafts signal

end SignalStub
