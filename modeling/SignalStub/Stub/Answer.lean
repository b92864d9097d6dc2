import SignalStub.EventId.Source
import SignalStub.Log.Event
import SignalStub.Route.Router
import SignalStub.Settings.WritePath

/-! # Answering requests

    The service has three endpoints. Writing a signal draws an event id and answers it; the probes
    tell that the service is alive, and which source its ids come from. A path of the table that does
    not serve a method answers with the methods that it serves, and every other path is not found.

    Only writing a signal draws from the source. Body and headers of a request are never looked at.
-/

namespace SignalStub

open Http Log Randomness Route

/-- The endpoints of the service. -/
inductive Endpoint
  | writeSignal
  | livez
  | healthz
  deriving DecidableEq, Repr

/-- The table of routes of a service with a write path. -/
def serviceRoutes (writePath : String) : Except RouteFault (Router Endpoint) := do
  let router ← Router.empty.route writePath .post .writeSignal
  let router ← router.route livezPath .get .livez
  router.route healthzPath .get .healthz

/-- The answer to a request, with the events that were logged for it. -/
structure Answer where
  response : Response
  events : List Event
  deriving DecidableEq, Repr

namespace Answer

/-! ## The single answers -/

/-- The span around a probe. -/
def probeSpan (probe : String) : Span := ⟨"probe", [("probe", .text probe)]⟩

/-- The event of a written signal. -/
def signalEvent (id : UInt32) : Event where
  level := .info
  target := "ceh_signal_mock::pkg::server::handlers::signal"
  message := "signal written"
  fields := [("ceh_event_id", .ofNat id.toNat)]
  spans := [⟨"write_signal", []⟩]

/-- The response to a written signal. -/
def signalResponse (id : UInt32) : Response :=
  .document 200 ⟨[("ceh_event_id", .number id.toNat)]⟩

/-- The answer to a written signal. -/
def signalWritten (id : UInt32) : Answer where
  response := signalResponse id
  events := [signalEvent id]

/-- The answer of the liveness probe. -/
def live : Answer where
  response := .empty 200 []
  events := [{
    level := .debug
    target := "ceh_signal_mock::pkg::server::handlers::probes"
    message := "signal mock is live"
    fields := []
    spans := [probeSpan "livez"] }]

/-- The answer of the health probe, for a kind of source. -/
def healthy (kind : String) : Answer where
  response := .document 200
    ⟨[("status", .text "ok"), ("id_source", .text kind),
      ("id_range", .numbers [eventIds.lo.toNat, eventIds.hi.toNat])]⟩
  events := [{
    level := .debug
    target := "ceh_signal_mock::pkg::server::handlers::probes"
    message := "signal mock is healthy"
    fields := [("id_source", .text kind)]
    spans := [probeSpan "healthz"] }]

/-- The answer to a method that its path does not serve. -/
def methodNotAllowed (allowed : List Method) : Answer where
  response := .empty 405 [("allow", ",".intercalate (allowed.map Method.name))]
  events := []

/-- The answer to a path outside the table. -/
def notFound (path : String) : Answer where
  response := .document 404 ⟨[("error", .text "not found"), ("path", .text path)]⟩
  events := [{
    level := .debug
    target := "ceh_signal_mock::pkg::server::handlers::fallback"
    message := "no route"
    fields := [("path", .shown path)]
    spans := [] }]

/-- The answer of an endpoint to a method: a response to HEAD keeps its headers alone. -/
def forMethod (method : Method) (answer : Answer) : Answer :=
  if method = .head then { answer with response := answer.response.withoutBody } else answer

end Answer

/-! ## Requests -/

/-- The answer to a request that needs no event id, for a kind of source. -/
def drawFree (kind : String) (router : Router Endpoint) (request : Request) : Option Answer :=
  match router.dispatch request.method request.uri.path with
  | .endpoint .writeSignal => none
  | .endpoint .livez => some (Answer.live.forMethod request.method)
  | .endpoint .healthz => some ((Answer.healthy kind).forMethod request.method)
  | .methodNotAllowed allowed => some (.methodNotAllowed allowed)
  | .unmatched => some (.notFound request.uri.path)

/-- Answers one request. A draw that fails leaves the request without an answer. -/
def answer {σ : Type} (source : IdSource σ) (router : Router Endpoint) (request : Request)
    (state : σ) : Except DrawFault Answer × σ :=
  match drawFree (source.kind state) router request with
  | some answer => (.ok answer, state)
  | none =>
    match source.nextEventId state with
    | (.ok id, state) => (.ok ((Answer.signalWritten id).forMethod request.method), state)
    | (.error fault, state) => (.error fault, state)

/-- Answers requests one after the other, each sent to one of several routers over one source. -/
def answerAll {σ : Type} (source : IdSource σ) :
    List (Router Endpoint × Request) → σ → List (Except DrawFault Answer) × σ
  | [], state => ([], state)
  | (router, request) :: rest, state =>
    let (first, state) := answer source router request state
    let (others, state) := answerAll source rest state
    (first :: others, state)

end SignalStub
