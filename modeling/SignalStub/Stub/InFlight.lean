import SignalStub.Stub.Answer

/-! # Requests in flight

    A service handles many requests at once over one source. Each is handled in steps, and the steps
    of different requests come in any order:

    * `draw`: a request that writes a signal takes its event id from the source, which answers one
      draw at a time;
    * `log`: the events of the answer are logged;
    * `respond`: the response leaves.

    A request that needs no event id begins with `log`.
-/

namespace SignalStub

open Http Log Randomness Route

/-! ## States -/

/-- How far a request has come. -/
inductive Phase
  | waiting
  | drawn (id : UInt32)
  | logged (answer : Answer)
  | responded (response : Response)
  deriving DecidableEq, Repr

/-- The state of a service with requests in flight. -/
structure InFlight (σ : Type) where
  /-- The state of the source. -/
  source : σ
  /-- The phase of every request. -/
  phase : Nat → Phase
  /-- The requests that drew, with their event ids, in the order of the draws. -/
  draws : List (Nat × UInt32)
  /-- The events with the requests that logged them, in order. -/
  log : List (Nat × Event)

namespace InFlight

/-- No request is handled yet. -/
def start {σ : Type} (source : σ) : InFlight σ where
  source := source
  phase _ := .waiting
  draws := []
  log := []

/-- The state with another phase of one request. -/
def setPhase {σ : Type} (s : InFlight σ) (i : Nat) (phase : Phase) : InFlight σ :=
  { s with phase := fun j => if j = i then phase else s.phase j }

/-! ## Steps -/

/-- A step, with the number of the request that it belongs to. -/
inductive Label
  | draw (i : Nat)
  | log (i : Nat)
  | respond (i : Nat)
  deriving DecidableEq, Repr

/-- A request with the router that it is sent to. -/
abbrev Job := Router Endpoint × Request

/-- A request that writes a signal takes its event id. -/
def draw {σ : Type} (source : IdSource σ) (job : Job) (i : Nat) (s : InFlight σ) :
    Option (InFlight σ) :=
  match s.phase i, drawFree (source.kind s.source) job.1 job.2 with
  | .waiting, none =>
    match source.nextEventId s.source with
    | (.ok id, state) =>
      some { s.setPhase i (.drawn id) with source := state, draws := s.draws ++ [(i, id)] }
    | (.error _, _) => none
  | _, _ => none

/-- The events of an answer are logged. -/
def logAnswer {σ : Type} (answer : Answer) (i : Nat) (s : InFlight σ) : InFlight σ :=
  { s.setPhase i (.logged answer) with log := s.log ++ answer.events.map fun event => (i, event) }

/-- A request logs what its answer tells. -/
def writeLog {σ : Type} (source : IdSource σ) (job : Job) (i : Nat) (s : InFlight σ) :
    Option (InFlight σ) :=
  match s.phase i with
  | .waiting => (drawFree (source.kind s.source) job.1 job.2).map fun answer => logAnswer answer i s
  | .drawn id => some (logAnswer ((Answer.signalWritten id).forMethod job.2.method) i s)
  | _ => none

/-- The response of a request leaves. -/
def respond {σ : Type} (i : Nat) (s : InFlight σ) : Option (InFlight σ) :=
  match s.phase i with
  | .logged answer => some (s.setPhase i (.responded answer.response))
  | _ => none

/-- One step of one of the requests, if it is its turn. -/
def step {σ : Type} (source : IdSource σ) (jobs : List Job) (s : InFlight σ) :
    Label → Option (InFlight σ)
  | .draw i => jobs[i]?.bind fun job => draw source job i s
  | .log i => jobs[i]?.bind fun job => writeLog source job i s
  | .respond i => respond i s

/-- The states that some order of the steps leads to. -/
inductive Reachable {σ : Type} (source : IdSource σ) (jobs : List Job) (initial : σ) :
    InFlight σ → Prop
  | start : Reachable source jobs initial (start initial)
  | step {s t : InFlight σ} (label : Label) :
      Reachable source jobs initial s → InFlight.step source jobs s label = some t →
        Reachable source jobs initial t

end InFlight

end SignalStub
