import SignalStub.Proofs.Stub.Table
import SignalStub.Stub.Listen

/-! # Recorded runs, step by step

    A recorded run is opened here once. On the way in it makes its source and asks for its address. If
    the address is refused, that is all. If it is granted, the handlers of the signals are set up, the
    server has its session, and the end of the session is the end of the run.

    What one step of a session does to the journal is said here too, so no later argument has to look
    into a host again.
-/

namespace SignalStub

open Http Log Randomness Route

/-! ## Recorded actions -/

section Recorded
variable {α β : Type} {x : Recorded α} {f : α → Recorded β} {journal journal' : Journal}

/-- An action that comes to its end is followed by the next one. -/
theorem Recorded.run_bind_of_ok {a : α} (h : x.run.run journal = (.ok a, journal')) :
    (x >>= f).run.run journal = (f a).run.run journal' := by
  simp only [ExceptT.run_bind, StateT.run_bind, h]
  rfl

/-- Behind a signal that kills the process there is no next action. -/
theorem Recorded.run_bind_of_error {signal : ShutdownSignal}
    (h : x.run.run journal = (.error signal, journal')) :
    (x >>= f).run.run journal = (.error signal, journal') := by
  simp only [ExceptT.run_bind, StateT.run_bind, h]
  rfl

end Recorded

/-! ## Failures -/

/-- A failure of the service itself, told in the words that the service has for it. -/
def Failure.IsOwn (failure : Failure) : Prop :=
  failure.status = 500 ∧ (failure.code, failure.message) ∈ Failure.ownTexts

/-- Every code of the service has one text, and no common text stands in its way. -/
theorem Failure.isOwn_ofCode {code : String} (h : code ∈ Failure.ownTexts.map Prod.fst) :
    (Failure.ofCode code).IsOwn := by
  have htexts : ∀ code ∈ Failure.ownTexts.map Prod.fst,
      (code, Failure.messageOf code) ∈ Failure.ownTexts := by decide
  exact ⟨rfl, htexts code h⟩

/-! ## Surroundings -/

/-- The event of making the source, which tells of a seed if there is one. -/
def openingEvents (settings : Settings) : List Event :=
  (settings.idSeed.map seededEvent).toList

namespace Surroundings

variable (around : Surroundings)

/-! ## Handlers of signals -/

/-- The waiter of one signal, if its handler is set up. -/
def waiter? (signal : ShutdownSignal) : Option ShutdownSignal :=
  if (around.handler signal).isOk then some signal else none

/-- The event of one signal whose handler is not set up. -/
def warning (signal : ShutdownSignal) : List Event :=
  match around.handler signal with
  | .ok () => []
  | .error reason => [deafEvent signal reason]

/-- The signals that are waited for. -/
def handled : List ShutdownSignal :=
  (around.waiter? around.firstHandled).toList ++
    (around.waiter? around.firstHandled.other).toList

/-- The events of the signals that are not waited for. -/
def warnings : List Event :=
  around.warning around.firstHandled ++ around.warning around.firstHandled.other

/-- What the server waits for, if the clients send a signal behind their messages. -/
def wait (signal : ShutdownSignal) : Recorded Unit := do
  Recorded.await signal around.handled
  Recorded.log [shutdownEvent]

section Setup
variable (drafts : List Draft) (signal : ShutdownSignal)

theorem run_setUp (other : ShutdownSignal) (journal : Journal) :
    ((around.host drafts signal).setUp other).run.run journal =
      (.ok (around.waiter? other),
        { journal with events := journal.events ++ around.warning other }) := by
  unfold Host.setUp host waiter? warning
  cases h : around.handler other with
  | ok _ =>
    simp only [h, List.append_nil]
    rfl
  | error reason =>
    simp only [h]
    rfl

theorem run_shutdownSignal (journal : Journal) :
    (around.host drafts signal).shutdownSignal.run.run journal =
      (.ok (around.wait signal),
        { journal with events := journal.events ++ around.warnings }) := by
  have hfirst := around.run_setUp drafts signal around.firstHandled journal
  have hother := around.run_setUp drafts signal around.firstHandled.other
    { journal with events := journal.events ++ around.warning around.firstHandled }
  unfold Host.shutdownSignal
  refine (Recorded.run_bind_of_ok rfl).trans ?_
  refine (Recorded.run_bind_of_ok hfirst).trans ?_
  refine (Recorded.run_bind_of_ok hother).trans ?_
  rw [List.append_assoc]
  rfl

end Setup

/-! ## Sessions -/

/-- What is left of a session that goes on from a source and a journal, and how it ends. -/
def goOn (router : Router Endpoint) (signal : ShutdownSignal) (session : Session)
    (generator : Generator) (journal : Journal) :
    Except ShutdownSignal (Except String Unit × Generator) × Journal :=
  ((session.run (Recorded.actions router (around.wait signal))).run generator).run.run journal

section Sessions
variable (router : Router Endpoint) (signal : ShutdownSignal) (generator : Generator)
  (journal : Journal)

theorem goOn_reply (exchange : Exchange) (next : Session) :
    around.goOn router signal (.reply exchange next) generator journal =
      around.goOn router signal next generator
        { journal with exchanges := journal.exchanges ++ [exchange] } := rfl

/-- A session goes on with the response that the service has made, behind the events that it has
    logged. -/
theorem goOn_call_of_ok {request : Request} {reply : Answer} {generator' : Generator}
    (h : answer Generator.source router request generator = (.ok reply, generator'))
    (next : Except DrawFault Response → Session) :
    around.goOn router signal (.call request next) generator journal =
      around.goOn router signal (next (.ok reply.response)) generator'
        { journal with events := journal.events ++ reply.events } := by
  have hcall : (((Recorded.actions router (around.wait signal)).call request).run
      generator).run.run journal = (.ok (.ok reply.response, generator'),
        { journal with events := journal.events ++ reply.events }) := by
    simp only [Recorded.actions, StateT.run_bind, StateT.run_get, pure_bind, h]
    rfl
  exact Recorded.run_bind_of_ok hcall

/-- Or with the fault that the service has stopped at. -/
theorem goOn_call_of_error {request : Request} {fault : DrawFault} {generator' : Generator}
    (h : answer Generator.source router request generator = (.error fault, generator'))
    (next : Except DrawFault Response → Session) :
    around.goOn router signal (.call request next) generator journal =
      around.goOn router signal (next (.error fault)) generator' journal := by
  have hcall : (((Recorded.actions router (around.wait signal)).call request).run
      generator).run.run journal = (.ok (.error fault, generator'), journal) := by
    simp only [Recorded.actions, StateT.run_bind, StateT.run_get, pure_bind, h]
    rfl
  exact Recorded.run_bind_of_ok hcall

/-- A session that waits goes on at a signal that is handled. -/
theorem goOn_await_of_handled (hhandled : signal ∈ around.handled) (next : Session) :
    around.goOn router signal (.await next) generator journal =
      around.goOn router signal next generator
        { journal with events := journal.events ++ [shutdownEvent] } := by
  have hwait : (around.wait signal).run.run journal =
      (.ok (), { journal with events := journal.events ++ [shutdownEvent] }) := by
    unfold wait Recorded.await
    rw [if_pos hhandled]
    rfl
  exact Recorded.run_bind_of_ok (x := (StateT.lift (around.wait signal)).run generator)
    (Recorded.run_bind_of_ok hwait)

/-- Any other signal kills the process. -/
theorem goOn_await_of_not_handled (hhandled : signal ∉ around.handled) (next : Session) :
    around.goOn router signal (.await next) generator journal = (.error signal, journal) := by
  unfold goOn Session.run
  simp only [Recorded.actions, wait, Recorded.await, if_neg hhandled]
  rfl

theorem goOn_finish (result : Except String Unit) :
    around.goOn router signal (.finish result) generator journal =
      (.ok (result, generator), journal) := rfl

/-- A session is cut off by no other signal than the one that is sent. -/
theorem eq_of_goOn_eq_error {session : Session} {killed : ShutdownSignal}
    (h : (around.goOn router signal session generator journal).1 = .error killed) :
    killed = signal := by
  induction session generalizing generator journal with
  | call request next ih =>
    rcases hanswer : answer Generator.source router request generator with ⟨fault | reply, left⟩
    · rw [around.goOn_call_of_error router signal generator journal hanswer] at h
      exact ih _ _ _ h
    · rw [around.goOn_call_of_ok router signal generator journal hanswer] at h
      exact ih _ _ _ h
  | reply exchange next ih => exact ih _ _ h
  | await next ih =>
    by_cases hhandled : signal ∈ around.handled
    · rw [around.goOn_await_of_handled router signal generator journal hhandled] at h
      exact ih _ _ h
    · rw [around.goOn_await_of_not_handled router signal generator journal hhandled] at h
      exact (Except.error.inj h).symm
  | finish result => cases h

end Sessions

/-- The server has its session behind the events of the signals that are not handled. -/
theorem run_serve (drafts : List Draft) (signal : ShutdownSignal) (listener : String)
    (router : Router Endpoint) (generator : Generator) (journal : Journal) :
    ((around.host drafts signal).serve listener router generator
        (around.host drafts signal).shutdownSignal).run.run journal =
      Prod.map (Except.map Prod.fst) id
        (around.goOn router signal (around.server.session drafts) generator
          { journal with events := journal.events ++ around.warnings }) := by
  -- the handlers are set up before the first message is looked at
  have hsetup := around.run_shutdownSignal drafts signal journal
  refine (Recorded.run_bind_of_ok hsetup).trans ?_
  rcases hrest : around.goOn router signal (around.server.session drafts) generator
    { journal with events := journal.events ++ around.warnings } with ⟨killed | ⟨result, left⟩, journal'⟩
  · exact Recorded.run_bind_of_error hrest
  · exact Recorded.run_bind_of_ok hrest

/-! ## Runs -/

/-- How a run ends whose server has ended. -/
def endingOf : Except String Unit → Ending
  | .ok () => .stopped
  | .error _ => .failed (.ofCode Failure.serveCode)

/-- The last event of a run whose server has ended. -/
def lastEvent : Except String Unit → Event
  | .ok () => stoppedEvent
  | .error reason => Failure.event Failure.serveCode reason

/-- What is seen of a run when the server has had its session. -/
def closing : Except ShutdownSignal (Except String Unit × Generator) × Journal → Run
  | (.ok (result, _), journal) =>
    ⟨endingOf result, journal.exchanges, journal.events ++ [lastEvent result]⟩
  | (.error signal, journal) => ⟨.killed signal, journal.exchanges, journal.events⟩

section Runs
variable {settings : Settings} (haccepted : WritePath.check settings.writePath = .ok ())
variable {around : Surroundings} (drafts : List Draft) (signal : ShutdownSignal)
include haccepted

/-- An address that is refused ends a run before its server begins. -/
theorem listen_of_refused {reason : String}
    (hbind : around.bind settings.bindAddress = .error reason) :
    around.listen settings drafts signal =
      ⟨.failed (.ofCode Failure.bindCode), [],
        openingEvents settings ++ [Failure.event Failure.bindCode reason]⟩ := by
  unfold Surroundings.listen Host.listen
  rw [serviceRoutes_of_check haccepted]
  simp only [host, hbind, openingEvents]
  cases settings.idSeed <;> rfl

/-- The way in, up to the session of the server. -/
theorem run_listen_of_granted {address : String}
    (hbind : around.bind settings.bindAddress = .ok address) :
    ((around.host drafts signal).listen settings).run.run ⟨[], []⟩ =
      (((around.host drafts signal).serve address (serviceTable settings.writePath)
        (makeSource around.entropy settings.idSeed).1 (around.host drafts signal).shutdownSignal >>=
          (around.host drafts signal).conclude).run.run
        ⟨[], openingEvents settings ++ [runningEvent address settings.writePath]⟩) := by
  have hopening : ((openingEvents settings).forM (around.host drafts signal).report).run.run
      ⟨[], []⟩ = (.ok (), ⟨[], openingEvents settings⟩) := by
    unfold openingEvents
    cases settings.idSeed <;> rfl
  have hgranted : ((around.host drafts signal).bind settings.bindAddress).run.run
      ⟨[], openingEvents settings⟩ = (.ok (.ok (address, address)), ⟨[], openingEvents settings⟩) := by
    simp only [host, hbind]
    rfl
  -- one action after the other: the words, the event of a seed, the routes, the address, its event
  unfold Host.listen
  refine (Recorded.run_bind_of_ok (x := (around.host drafts signal).entropy) rfl).trans ?_
  refine (Recorded.run_bind_of_ok hopening).trans ?_
  rw [serviceRoutes_of_check haccepted]
  refine (Recorded.run_bind_of_ok hgranted).trans ?_
  exact Recorded.run_bind_of_ok rfl

/-- Behind an address that is granted the session of the server decides. -/
theorem listen_of_granted {address : String}
    (hbind : around.bind settings.bindAddress = .ok address) :
    around.listen settings drafts signal =
      closing (around.goOn (serviceTable settings.writePath) signal (around.server.session drafts)
        (makeSource around.entropy settings.idSeed).1
        ⟨[], openingEvents settings ++ runningEvent address settings.writePath :: around.warnings⟩) := by
  have hserve := around.run_serve drafts signal address (serviceTable settings.writePath)
    (makeSource around.entropy settings.idSeed).1
    ⟨[], openingEvents settings ++ [runningEvent address settings.writePath]⟩
  rw [List.append_assoc, List.singleton_append] at hserve
  dsimp only at hserve
  unfold Surroundings.listen
  rw [run_listen_of_granted haccepted drafts signal hbind]
  generalize around.goOn _ _ _ _ _ = rest at hserve ⊢
  -- a signal has killed the process, the server has ended for a reason, or it has ended well
  rcases rest with ⟨killed | ⟨reason | _, left⟩, journal⟩
  · rw [Recorded.run_bind_of_error hserve]
    rfl
  · rw [Recorded.run_bind_of_ok hserve]
    rfl
  · rw [Recorded.run_bind_of_ok hserve]
    rfl

/-- A run stops, is killed, or fails because of its address or its server. In particular it never ends
    for want of a route. -/
theorem listen_ending_cases :
    (around.listen settings drafts signal).ending = .stopped ∨
      (around.listen settings drafts signal).ending = .killed signal ∨
      ∃ code ∈ [Failure.bindCode, Failure.serveCode],
        (around.listen settings drafts signal).ending = .failed (.ofCode code) := by
  cases hbind : around.bind settings.bindAddress with
  | error reason =>
    rw [listen_of_refused haccepted drafts signal hbind]
    exact .inr (.inr ⟨_, List.mem_cons_self, rfl⟩)
  | ok address =>
    rw [listen_of_granted haccepted drafts signal hbind]
    rcases hrest : around.goOn _ _ _ _ _ with ⟨killed | ⟨reason | _, left⟩, journal⟩
    · obtain rfl := around.eq_of_goOn_eq_error _ signal _ _ (congrArg Prod.fst hrest)
      exact .inr (.inl rfl)
    · exact .inr (.inr ⟨_, List.mem_cons_of_mem _ List.mem_cons_self, rfl⟩)
    · exact .inl rfl

/-- No run ends for want of a route. -/
theorem listen_ending_ne_unroutable (fault : RouteFault) :
    (around.listen settings drafts signal).ending ≠ .unroutable fault := by
  rcases @listen_ending_cases settings haccepted around drafts signal with h | h | ⟨code, -, h⟩ <;>
  · rw [h]
    nofun

/-- A run that fails tells so in words of the service. -/
theorem isOwn_of_listen_failed {failure : Failure}
    (hfailed : (around.listen settings drafts signal).ending = .failed failure) : failure.IsOwn := by
  rcases @listen_ending_cases settings haccepted around drafts signal with h | h | ⟨code, hcode, h⟩
  · cases h.symm.trans hfailed
  · cases h.symm.trans hfailed
  · obtain rfl := Ending.failed.inj (h.symm.trans hfailed)
    have hcodes : ∀ code ∈ [Failure.bindCode, Failure.serveCode],
        code ∈ Failure.ownTexts.map Prod.fst := by decide
    exact Failure.isOwn_ofCode (hcodes code hcode)

end Runs

end Surroundings

end SignalStub
