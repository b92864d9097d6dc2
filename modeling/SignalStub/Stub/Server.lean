import SignalStub.Stub.Answer

/-! # Servers

    Between the clients and the service stands a server for HTTP. It takes the messages of the
    clients, hands requests to the service, and brings the responses back. The service knows no more
    of it than that: which messages a server hands over, and what it tells the clients of the others,
    is the server's own affair.

    So a server is described by its sessions. A session goes step by step from the first message to
    the end of the server, and each step is a question to the service or a word to a client.

    The program brings a server of its own. It refuses messages with too many headers and messages
    whose length cannot be told, and hands over every other request.
-/

namespace SignalStub

open Http Log Randomness Route

/-! ## What clients see -/

/-- A request as a client writes it. -/
structure Draft where
  method : String
  uri : String
  headers : Headers
  body : String
  deriving DecidableEq, Repr

/-- What a client sees of its request. -/
inductive Exchange
  | answered (response : Response)
  /-- The request cannot be made. -/
  | malformed (fault : RequestFault)
  /-- The service draws an event id forever, or its source fails. -/
  | unanswered (fault : DrawFault)
  /-- The connection fails before the service sees the request. -/
  | unreachable
  deriving DecidableEq, Repr

/-- A response as it reaches the client: one to HEAD has no body. -/
def sent (method : Method) (response : Response) : Response :=
  if method = .head then response.withoutBody else response

/-- Sends one request to the service, with nothing in between that could refuse it. -/
def exchange {σ : Type} (source : IdSource σ) (router : Router Endpoint) (draft : Draft)
    (state : σ) : Exchange × List Event × σ :=
  match Request.make draft.method draft.uri draft.headers draft.body with
  | .error fault => (.malformed fault, [], state)
  | .ok request =>
    match answer source router request state with
    | (.ok answer, state) =>
      (.answered (sent request.method answer.response), answer.events, state)
    | (.error fault, state) => (.unanswered fault, [], state)

/-! ## Sessions -/

/-- What a server does, step by step, with messages that clients send one after the other. -/
inductive Session
  /-- The service is called. The session goes on with its response, or with the fault that the
      service stopped at. -/
  | call (request : Request) (next : Except DrawFault Response → Session)
  /-- The next client sees the end of its exchange. -/
  | reply (exchange : Exchange) (next : Session)
  /-- The server waits until it is told to stop. -/
  | await (next : Session)
  /-- The server ends, well or for a reason. -/
  | finish (result : Except String Unit)

/-- What a session acts on. -/
structure Session.Actions (m : Type → Type) where
  /-- Calls the service. -/
  call : Request → m (Except DrawFault Response)
  /-- Tells the next client. -/
  reply : Exchange → m Unit
  /-- Waits until the server is told to stop. -/
  await : m Unit

/-- Goes through a session. -/
def Session.run {m : Type → Type} [Monad m] (actions : Actions m) :
    Session → m (Except String Unit)
  | .call request next => do (next (← actions.call request)).run actions
  | .reply exchange next => do
    actions.reply exchange
    next.run actions
  | .await next => do
    actions.await
    next.run actions
  | .finish result => return result

/-- A server for HTTP. -/
structure HttpServer where
  /-- Whether the server hands a message to the service. -/
  takes : Draft → Bool
  /-- The session in which clients send these messages, before the server is told to stop. -/
  session : List Draft → Session

/-! ## The server of the program -/

namespace HttpServer

/-- The largest number of headers that a message may have. -/
def maxHeaders : Nat := 100

/-- The length that a header announces for the body, if it announces one: a number, or a text that is
    none. -/
def length? (header : String × String) : Option (Option Nat) :=
  if header.1.toList.map Char.toLower = "content-length".toList then
    some (if header.2.toList.all Char.isDigit then header.2.toNat? else none)
  else none

/-- Whether headers leave no doubt about the length of the body. -/
def tellsLength (headers : Headers) : Bool :=
  match headers.filterMap length? with
  | [] => true
  | first :: others => first.isSome && others.all (· == first)

/-- The request of a message, or what its client sees instead. -/
def receive (draft : Draft) : Except Exchange Request :=
  if maxHeaders < draft.headers.length then .error (.answered (.empty 431 []))
  else if !tellsLength draft.headers then .error (.answered (.empty 400 []))
  else (Request.make draft.method draft.uri draft.headers draft.body).mapError .malformed

/-- What the client sees of what the service made of its request. -/
def shown (method : Method) : Except DrawFault Response → Exchange
  | .ok response => .answered (sent method response)
  | .error fault => .unanswered fault

/-- Deals with one message, before the rest of the session. -/
def message (draft : Draft) (rest : Session) : Session :=
  match receive draft with
  | .error exchange => .reply exchange rest
  | .ok request => .call request fun outcome => .reply (shown request.method outcome) rest

/-- The end of a server that is told to stop. -/
def stop : Session := .await (.finish (.ok ()))

/-- The server of the program. -/
def plain : HttpServer where
  takes draft := (receive draft).isOk
  session drafts := drafts.foldr message stop

/-- The server of a program that no client reaches. -/
def unreached : HttpServer where
  takes _ := false
  session drafts := drafts.foldr (fun _ rest => .reply .unreachable rest) stop

end HttpServer

end SignalStub
