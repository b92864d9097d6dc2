import SignalStub.CommandLine.Parse
import SignalStub.Proofs.Stub.Interleaving
import SignalStub.Proofs.Stub.Session

/-! # The life of a service

    A run of the service is its requests in process, wrapped in a fixed life. On the way in the
    source is made and the address asked for; on the way out the signal is received and the server
    stops. Between the two the server hands requests to the service, which answers them as it does in
    process and logs what it logs there. A message that the server answers by itself has no part in
    this: it leaves no event behind and takes no event id.

    A machine that refuses the address ends the life at once. The source is made by then, and has
    told of its seed; nothing that comes later happens.

    Nothing is said about which messages a server hands over. Where it hands over all of them, every
    client sees what its request has in process. A server for HTTP does not: a message whose length
    cannot be told never reaches the service, though in process it is a request like any other.
-/

namespace SignalStub

open CommandLine Http Log Randomness Route InFlight

/-! ## Places of events -/

/-- The place that the events of the server itself come from. -/
def serverTarget : String := "ceh_signal_mock::pkg::server"

/-- The place that the event of a reproducible source comes from. -/
def sourceTarget : String := "ceh_signal_mock::pkg::ids"

/-- The places that the events of requests come from. -/
def handlerTargets : List String :=
  ["ceh_signal_mock::pkg::server::handlers::signal",
    "ceh_signal_mock::pkg::server::handlers::probes",
    "ceh_signal_mock::pkg::server::handlers::fallback"]

theorem events_forMethod (method : Method) (reply : Answer) :
    (reply.forMethod method).events = reply.events := by
  unfold Answer.forMethod
  split <;> rfl

theorem target_mem_of_drawFree {kind : String} {router : Router Endpoint} {request : Request}
    {reply : Answer} (h : drawFree kind router request = some reply) :
    ∀ event ∈ reply.events, event.target ∈ handlerTargets := by
  unfold drawFree at h
  split at h
  next => cases h
  all_goals
    obtain rfl := Option.some.inj h
    simp [events_forMethod, Answer.live, Answer.healthy, Answer.methodNotAllowed, Answer.notFound,
      handlerTargets]

/-- The events of a request come from the handlers. -/
theorem target_mem_of_answer {σ : Type} (source : IdSource σ) (router : Router Endpoint)
    (request : Request) (state : σ) :
    ∀ event ∈ eventsOfOutcome (answer source router request state).1,
      event.target ∈ handlerTargets := by
  unfold answer
  split
  next reply hfree => exact target_mem_of_drawFree hfree
  next =>
    split
    next => simp [eventsOfOutcome, events_forMethod, Answer.signalWritten, Answer.signalEvent,
      handlerTargets]
    next => simp [eventsOfOutcome]

theorem target_mem_of_answerAll {σ : Type} (source : IdSource σ) (router : Router Endpoint)
    (requests : List Request) (state : σ) :
    ∀ event ∈ (answerAll source (sentTo router requests) state).1.flatMap eventsOfOutcome,
      event.target ∈ handlerTargets := by
  have houtcomes := (answerAll_induction (P := fun _ => True)
    (Q := fun outcome => ∀ event ∈ eventsOfOutcome outcome, event.target ∈ handlerTargets)
    (fun request state _ => ⟨target_mem_of_answer source router request state, trivial⟩)
    requests state trivial).1
  intro event hevent
  obtain ⟨outcome, houtcome, hevent⟩ := List.mem_flatMap.mp hevent
  exact houtcomes outcome houtcome event hevent

/-! ## Outcomes that differ in an event id -/

/-- Two answers that are the same, or that write a signal each. -/
inductive SameUpToId : Except DrawFault Answer → Except DrawFault Answer → Prop
  | same (reply : Answer) : SameUpToId (.ok reply) (.ok reply)
  | signal (id other : UInt32) :
      SameUpToId (.ok (.signalWritten id)) (.ok (.signalWritten other))

theorem kind_draw (range : DrawRange) (generator : Generator) :
    (generator.draw range).2.kind = generator.kind := by
  cases generator <;> rfl

/-- A written signal whose draw succeeds. -/
theorem answer_of_draw {σ : Type} {source : IdSource σ} {writePath : String} {request : Request}
    (hwrites : writesSignal writePath request = true) {state : σ} {value : UInt32}
    (hdraw : (source.draw eventIds state).1 = .ok value) :
    answer source (serviceTable writePath) request state =
      (.ok (.signalWritten (eventIds.clamp value)), (source.draw eventIds state).2) := by
  have hyield : source.yield 0 state = .ok value := hdraw
  rw [answer_of_writesSignal source hwrites, hyield]
  rfl

section Service
variable {writePath : String} (haccepted : WritePath.check writePath = .ok ())
include haccepted

/-- Two generators of one kind that supply the event ids answer a request alike but for its event
    id, and go on to be of one kind and to supply the event ids. -/
theorem sameUpToId_of_answer (request : Request) {first second : Generator}
    (hkind : first.kind = second.kind) (hfirst : first.Supplies eventIds)
    (hsecond : second.Supplies eventIds) :
    ∃ outcome other next next',
      answer Generator.source (serviceTable writePath) request first = (outcome, next) ∧
      answer Generator.source (serviceTable writePath) request second = (other, next') ∧
      SameUpToId outcome other ∧ next.kind = next'.kind ∧ next.Supplies eventIds ∧
        next'.Supplies eventIds := by
  cases hwrites : writesSignal writePath request with
  | true =>
    obtain ⟨value, hvalue⟩ := Generator.draw_isOk_of_supplies eventIds_nonempty hfirst
    obtain ⟨other, hother⟩ := Generator.draw_isOk_of_supplies eventIds_nonempty hsecond
    have hkinds := (kind_draw eventIds first).trans (hkind.trans (kind_draw eventIds second).symm)
    exact ⟨_, _, _, _, answer_of_draw hwrites hvalue, answer_of_draw hwrites hother, .signal _ _,
      hkinds, (Generator.supplies_draw eventIds_nonempty eventIds first).mpr hfirst,
      (Generator.supplies_draw eventIds_nonempty eventIds second).mpr hsecond⟩
  | false =>
    -- an answer without a draw depends on the kind of the generator alone
    have hdraws : ¬ Job.Draws (serviceTable writePath, request) := by
      rw [draws_iff_writesSignal haccepted, hwrites]
      exact Bool.false_ne_true
    cases hfree : drawFree first.kind (serviceTable writePath) request with
    | none => exact absurd ((drawFree_eq_none_iff _ _ _).mp hfree) hdraws
    | some reply =>
      have hother : drawFree second.kind (serviceTable writePath) request = some reply :=
        hkind ▸ hfree
      exact ⟨_, _, _, _, answer_of_drawFree hfree, answer_of_drawFree hother, .same reply, hkind,
        hfirst, hsecond⟩

/-- In process, the choice of the thread's words shows in the event ids alone. -/
theorem forall₂_sameUpToId (requests : List Request) {first second : Generator}
    (hkind : first.kind = second.kind) (hfirst : first.Supplies eventIds)
    (hsecond : second.Supplies eventIds) :
    List.Forall₂ SameUpToId
      (answerAll Generator.source (sentTo (serviceTable writePath) requests) first).1
      (answerAll Generator.source (sentTo (serviceTable writePath) requests) second).1 := by
  induction requests generalizing first second with
  | nil => exact .nil
  | cons request requests ih =>
    obtain ⟨outcome, other, next, next', hanswer, hanswer', hsame, hkind, hnext, hnext'⟩ :=
      sameUpToId_of_answer haccepted request hkind hfirst hsecond
    have hrest := ih hkind hnext hnext'
    simp only [sentTo] at hrest
    simp only [sentTo, List.map_cons, answerAll, hanswer, hanswer']
    exact .cons hsame hrest

end Service

/-! ## Runs -/

/-- The surroundings of a service that comes to an orderly end. The server keeps to its messages and
    ends well when it is told to stop, and both signals are handled. -/
structure Surroundings.AreSound (around : Surroundings) : Prop where
  faithful : around.server.IsFaithful (.ok ())
  handled : ∀ signal, around.handler signal = .ok ()

theorem Surroundings.AreSound.mem_handled {around : Surroundings} (h : around.AreSound)
    (signal : ShutdownSignal) : signal ∈ around.handled := by
  have hwaiter : ∀ other, around.waiter? other = some other := by
    intro other
    rw [Surroundings.waiter?, h.handled other]
    rfl
  unfold Surroundings.handled
  rw [hwaiter, hwaiter]
  cases signal <;> cases around.firstHandled <;> decide

theorem Surroundings.AreSound.warnings_eq {around : Surroundings} (h : around.AreSound) :
    around.warnings = [] := by
  have hwarning : ∀ signal, around.warning signal = [] := by
    intro signal
    rw [Surroundings.warning, h.handled signal]
  rw [Surroundings.warnings, hwarning, hwarning, List.append_nil]

/-- The outcomes that requests have in process, as far as their messages are handed over. -/
def outcomesInProcess (around : Surroundings) (settings : Settings) (router : Router Endpoint)
    (drafts : List Draft) (requests : List Request) : List (Except DrawFault Answer) :=
  (served around.entropy settings router (taken around.server.takes drafts requests)).1

/-- A run on an address that was granted: the outcomes in process, wrapped in the events of the
    service itself. -/
structure WrapsOutcomes (run : Run) (settings : Settings) (address : String)
    (takes : Draft → Bool) (drafts : List Draft) (outcomes : List (Except DrawFault Answer)) :
    Prop where
  ending : run.ending = .stopped
  /-- Every client sees the end of its exchange. -/
  everyone : run.exchanges.length = drafts.length
  /-- The client of a message that is handed over sees the outcome that its request has in process. -/
  exchanges : List.Forall₂ ShowsOutcome outcomes (taken takes drafts run.exchanges)
  /-- The events in order, and there is no other. -/
  events : run.events = openingEvents settings ++ runningEvent address settings.writePath ::
    (outcomes.flatMap eventsOfOutcome ++ [shutdownEvent, stoppedEvent])
  /-- No event of a request is taken for one of the server: that it runs, that it received a signal
      and that it stopped is told once each, and in this order. -/
  server : run.events.filter (fun event => event.target = serverTarget) =
    [runningEvent address settings.writePath, shutdownEvent, stoppedEvent]
  /-- Nor for the one of the source, which is there exactly if there is a seed. -/
  source : run.events.filter (fun event => event.target = sourceTarget) = openingEvents settings

/-- A run on an address that was refused. -/
structure IsRefused (run : Run) (settings : Settings) (reason : String) : Prop where
  ending : run.ending = .failed (.ofCode "ERR-BIND")
  exchanges : run.exchanges = []
  /-- The source is made before the address is asked for. -/
  events : run.events = openingEvents settings ++ [Failure.event "ERR-BIND" reason]
  /-- One event is an error, and it tells the cause. -/
  error : run.events.filter (fun event => event.level = .error) = [Failure.event "ERR-BIND" reason]
  /-- Neither the server nor a request tells of anything. -/
  silent : ∀ event ∈ run.events, event.target ∉ serverTarget :: handlerTargets

/-- A service on an address that was granted lives as its requests have it in process. -/
structure LivesAsInProcess (around : Surroundings) (settings : Settings) (router : Router Endpoint)
    (drafts : List Draft) (requests : List Request) (signal : ShutdownSignal) : Prop where
  /-- An address that is granted leads through the whole life. -/
  granted : ∀ address, around.bind settings.bindAddress = .ok address →
    WrapsOutcomes (around.listen settings drafts signal) settings address around.server.takes drafts
      (outcomesInProcess around settings router drafts requests)
  /-- If every message is handed over, the exchanges are those of all requests, one by one. -/
  whole : (∀ draft ∈ drafts, around.server.takes draft = true) →
    ∀ address, around.bind settings.bindAddress = .ok address →
      List.Forall₂ ShowsOutcome (served around.entropy settings router requests).1
        (around.listen settings drafts signal).exchanges
  /-- Every message that is handed over has a response, if the words of the generator let every draw
      end. -/
  answered : ∀ address, around.bind settings.bindAddress = .ok address →
    (makeSource around.entropy settings.idSeed).1.Supplies eventIds →
    ∀ exchange ∈ taken around.server.takes drafts (around.listen settings drafts signal).exchanges,
      ∃ response, exchange = .answered response ∧ response.status ∈ [200, 404, 405]
  /-- The words of the machine show in nothing but the event ids. -/
  otherWords : ∀ words : Words, (makeSource around.entropy settings.idSeed).1.Supplies eventIds →
    (makeSource words settings.idSeed).1.Supplies eventIds →
    List.Forall₂ SameUpToId (outcomesInProcess around settings router drafts requests)
      (outcomesInProcess { around with entropy := words } settings router drafts requests)

/-- The client of an answered request sees a response with the status of the answer. -/
theorem exists_response_of_shows {outcomes : List (Except DrawFault Answer)} {seen : List Exchange}
    (hanswered : ∀ outcome ∈ outcomes, IsAnswered outcome)
    (hshows : List.Forall₂ ShowsOutcome outcomes seen) :
    ∀ exchange ∈ seen, ∃ response, exchange = .answered response ∧
      response.status ∈ [200, 404, 405] := by
  induction hshows with
  | nil => nofun
  | cons hshown _ ih =>
    intro exchange hexchange
    rcases List.mem_cons.mp hexchange with rfl | hexchange
    · obtain ⟨reply, rfl, hstatus⟩ := hanswered _ List.mem_cons_self
      obtain ⟨hsame, -⟩ := hshown
      exact ⟨_, rfl, hsame ▸ hstatus⟩
    · exact ih (fun outcome h => hanswered outcome (List.mem_cons_of_mem _ h)) exchange hexchange

theorem filter_target_eq_nil {events : List Event} {targets : List String}
    (h : ∀ event ∈ events, event.target ∈ targets) (target : String) (hother : target ∉ targets) :
    events.filter (fun event => event.target = target) = [] := by
  rw [List.filter_eq_nil_iff]
  intro event hevent hsame
  rw [← of_decide_eq_true hsame] at hother
  exact hother (h event hevent)

theorem filter_error_eq_nil {events : List Event} (h : ∀ event ∈ events, event.level = .info) :
    events.filter (fun event => event.level = .error) = [] := by
  rw [List.filter_eq_nil_iff]
  intro event hevent
  simp [h event hevent]

theorem openingEvents_mem {settings : Settings} {event : Event}
    (h : event ∈ openingEvents settings) : event.target = sourceTarget ∧ event.level = .info := by
  obtain ⟨seed, -, rfl⟩ : ∃ seed, settings.idSeed = some seed ∧ seededEvent seed = event := by
    simpa [openingEvents] using h
  exact ⟨rfl, rfl⟩

section Listen
variable {settings : Settings} (haccepted : WritePath.check settings.writePath = .ok ())
variable {around : Surroundings} {drafts : List Draft} {requests : List Request}
variable (signal : ShutdownSignal)
include haccepted

/-- The life on an address that was granted, whatever signals are handled and however the server
    ends. A signal that is not handled cuts it off. -/
theorem listen_of_serves {result : Except String Unit}
    (hserves : Session.Serves around.server.takes result drafts (around.server.session drafts))
    (hmake : List.Forall₂ Makes drafts requests) {address : String}
    (hbind : around.bind settings.bindAddress = .ok address) {outcomes : List (Except DrawFault Answer)}
    (houtcomes : outcomesInProcess around settings (serviceTable settings.writePath) drafts requests =
      outcomes) :
    ∃ seen : List Exchange, seen.length = drafts.length ∧
      List.Forall₂ ShowsOutcome outcomes (taken around.server.takes drafts seen) ∧
      (signal ∈ around.handled → around.listen settings drafts signal =
        ⟨Surroundings.endingOf result, seen,
          openingEvents settings ++ runningEvent address settings.writePath ::
            (around.warnings ++ outcomes.flatMap eventsOfOutcome ++
              [shutdownEvent, Surroundings.lastEvent result])⟩) ∧
      (signal ∉ around.handled → around.listen settings drafts signal =
        ⟨.killed signal, seen,
          openingEvents settings ++ runningEvent address settings.writePath ::
            (around.warnings ++ outcomes.flatMap eventsOfOutcome)⟩) := by
  subst houtcomes
  obtain ⟨seen, hlength, hshows, hrest⟩ := hserves.goOn_eq around (serviceTable settings.writePath)
    signal hmake (makeSource around.entropy settings.idSeed).1
    ⟨[], openingEvents settings ++ runningEvent address settings.writePath :: around.warnings⟩
  -- behind the last message the signal decides whether the server comes to its end
  refine ⟨seen, hlength, hshows, fun hhandled => ?_, fun hhandled => ?_⟩
  · rw [Surroundings.listen_of_granted haccepted drafts signal hbind, hrest,
      around.goOn_await_of_handled _ _ _ _ hhandled, around.goOn_finish]
    simp [Surroundings.closing, outcomesInProcess, served]
  · rw [Surroundings.listen_of_granted haccepted drafts signal hbind, hrest,
      around.goOn_await_of_not_handled _ _ _ _ hhandled]
    simp [Surroundings.closing, outcomesInProcess, served]

theorem wrapsOutcomes_of_granted (hsound : around.AreSound)
    (hmake : List.Forall₂ Makes drafts requests) (hordinary : ∀ draft ∈ drafts, draft.IsOrdinary)
    {address : String} (hbind : around.bind settings.bindAddress = .ok address) :
    WrapsOutcomes (around.listen settings drafts signal) settings address around.server.takes drafts
      (outcomesInProcess around settings (serviceTable settings.writePath) drafts requests) := by
  obtain ⟨seen, hlength, hshows, hlisten, -⟩ :=
    listen_of_serves haccepted signal (hsound.faithful drafts hordinary) hmake hbind rfl
  have hlisten := hlisten (hsound.mem_handled signal)
  rw [hsound.warnings_eq, List.nil_append] at hlisten
  have hopening : ∀ event ∈ openingEvents settings, event.target ∈ [sourceTarget] :=
    fun event hevent => List.mem_singleton.mpr (openingEvents_mem hevent).1
  have hserved := target_mem_of_answerAll Generator.source (serviceTable settings.writePath)
    (taken around.server.takes drafts requests) (makeSource around.entropy settings.idSeed).1
  rw [hlisten]
  refine ⟨rfl, hlength, hshows, rfl, ?_, ?_⟩
  · have hnone := filter_target_eq_nil hopening serverTarget (by decide)
    have hnone' := filter_target_eq_nil hserved serverTarget (by decide)
    rw [outcomesInProcess, served, List.filter_append, List.filter_cons_of_pos rfl,
      List.filter_append, hnone, hnone']
    rfl
  · have hself : (openingEvents settings).filter (fun event => event.target = sourceTarget) =
        openingEvents settings :=
      List.filter_eq_self.mpr fun event hevent => decide_eq_true (openingEvents_mem hevent).1
    have hnone := filter_target_eq_nil hserved sourceTarget (by decide)
    have hrunning : (runningEvent address settings.writePath).target ≠ sourceTarget := by
      show serverTarget ≠ sourceTarget
      decide
    rw [outcomesInProcess, served, List.filter_append,
      List.filter_cons_of_neg (by simpa using hrunning), List.filter_append, hself, hnone]
    exact List.append_nil _

theorem livesAsInProcess_of_sound (hsound : around.AreSound)
    (hmake : List.Forall₂ Makes drafts requests) (hordinary : ∀ draft ∈ drafts, draft.IsOrdinary) :
    LivesAsInProcess around settings (serviceTable settings.writePath) drafts requests signal := by
  have hwraps : ∀ address, around.bind settings.bindAddress = .ok address →
      WrapsOutcomes (around.listen settings drafts signal) settings address around.server.takes
        drafts (outcomesInProcess around settings (serviceTable settings.writePath) drafts requests) :=
    fun _ hbind => wrapsOutcomes_of_granted haccepted signal hsound hmake hordinary hbind
  refine ⟨hwraps, ?_, ?_, ?_⟩
  · intro htakes address hbind
    have hexchanges := (hwraps address hbind).exchanges
    rwa [outcomesInProcess, taken_eq_self htakes hmake.length_eq.symm,
      taken_eq_self htakes (hwraps address hbind).everyone] at hexchanges
  · intro address hbind hsupplies exchange hexchange
    exact exists_response_of_shows (requests_answered_of_supplies haccepted _ hsupplies)
      (hwraps address hbind).exchanges exchange hexchange
  · intro words hfirst hsecond
    refine forall₂_sameUpToId haccepted _ ?_ hfirst hsecond
    -- the seed decides of what kind the generator is
    cases settings.idSeed <;> rfl

/-- The life on an address that was refused. -/
theorem isRefused_of_refused {reason : String}
    (hbind : around.bind settings.bindAddress = .error reason) :
    IsRefused (around.listen settings drafts signal) settings reason := by
  rw [Surroundings.listen_of_refused haccepted drafts signal hbind]
  refine ⟨rfl, rfl, rfl, ?_, ?_⟩
  · have hnone : (openingEvents settings).filter (fun event => event.level = .error) = [] :=
      filter_error_eq_nil fun _ hevent => (openingEvents_mem hevent).2
    rw [List.filter_append, hnone]
    rfl
  · intro event hevent
    rcases List.mem_append.mp hevent with hopening | hfailure
    · rw [(openingEvents_mem hopening).1]
      decide
    · obtain rfl := List.mem_singleton.mp hfailure
      show "ceh_signal_mock::prelude" ∉ serverTarget :: handlerTargets
      decide

end Listen

/-- A run of the service under settings that were loaded, with a host and a port from the command
    line. In sound surroundings it lives as its requests have it in process; in any surroundings an
    address that is refused ends it at once. -/
theorem listen_lives_as_in_process {env : Environment} {settings : Settings}
    (hload : Settings.load env = .ok settings) (args : ListenArgs) (around : Surroundings)
    {drafts : List Draft} {requests : List Request} (hmake : List.Forall₂ Makes drafts requests)
    (hordinary : ∀ draft ∈ drafts, draft.IsOrdinary) (signal : ShutdownSignal) :
    ∃ router, serviceRoutes settings.writePath = .ok router ∧
      (around.AreSound →
        LivesAsInProcess around (args.apply settings) router drafts requests signal) ∧
      ∀ reason, around.bind (args.apply settings).bindAddress = .error reason →
        IsRefused (around.listen (args.apply settings) drafts signal) (args.apply settings)
          reason := by
  obtain ⟨-, haccepted⟩ := (Settings.load_eq_ok_iff env settings).mp hload
  have haccepted' : WritePath.check (args.apply settings).writePath = .ok () := haccepted
  refine ⟨serviceTable settings.writePath, serviceRoutes_of_check haccepted, ?_, ?_⟩
  · intro hsound
    exact livesAsInProcess_of_sound haccepted' signal hsound hmake hordinary
  · intro reason hbind
    exact isRefused_of_refused haccepted' signal hbind

/-- On every machine the surroundings are sound, for the program brings its own server. -/
theorem Machine.areSound_surroundings (machine : Machine) : machine.surroundings.AreSound :=
  ⟨machine.isFaithful_server, fun _ => rfl⟩

/-! ## Messages next to a probe -/

/-- A seed, and a write path where another service has its probe. -/
def probedSettings : Settings := { Settings.default with idSeed := some 42, writePath := "/livez" }

/-- A signal, a probe and a path that nobody serves, as a client writes them. In front of them stands
    a signal whose length cannot be told. -/
def fourDrafts : List Draft :=
  [⟨"POST", "/livez", [("content-length", "abc")], ""⟩,
    ⟨"POST", "/livez?id=7", [("content-type", "text/plain")], "text"⟩,
    ⟨"GET", "/healthz/", [], ""⟩, ⟨"post", "/signals", [], ""⟩]

/-- The requests that are made of the last three. -/
def threeRequests : List Request :=
  [⟨.post, ⟨none, none, "/livez", some "id=7"⟩, [("content-type", "text/plain")], "text"⟩,
    ⟨.get, ⟨none, none, "/healthz/", none⟩, [], ""⟩,
    ⟨.other "post", ⟨none, none, "/signals", none⟩, [], ""⟩]

/-- The request that is made of the first. -/
def unreadableRequest : Request :=
  ⟨.post, ⟨none, none, "/livez", none⟩, [("content-length", "abc")], ""⟩

/-- The machine gives a port of its choice. -/
def grantingMachine : Machine := ⟨fun _ => .ok "127.0.0.1:40100", true, .ofSeed 0⟩

/-- The machine has given the address to somebody else. -/
def refusingMachine : Machine :=
  ⟨fun _ => .error "Address already in use (os error 98)", true, .ofSeed 0⟩

theorem load_probedSettings :
    Settings.load [("ID_SEED", "42"), ("Write_Signal_Path", "/livez")] = .ok probedSettings := by
  rfl

/-- The first word of the seed is already one that gives an event id. -/
theorem supplies_grantingMachine :
    (makeSource grantingMachine.entropy (some 42)).1.Supplies eventIds :=
  (Words.supplies_ofKey_iff eventIds (Seed.key 42)).mpr ⟨0, by decide +kernel⟩

theorem isOrdinary_of_mem_fourDrafts : ∀ draft ∈ fourDrafts, draft.IsOrdinary := by
  simp only [fourDrafts, List.forall_mem_cons, List.not_mem_nil, false_implies, implies_true]
  exact ⟨⟨rfl, by decide⟩, ⟨rfl, by decide⟩, ⟨rfl, by decide⟩, ⟨rfl, by decide⟩, trivial⟩

/-- A machine that grants the address, and one that refuses it. Three of four messages are handed
    over. The words of the seed supply the event ids, so all three are answered. -/
theorem three_of_four_live_as_in_process :
    CommandLine.parse ["listen", "--host", "127.0.0.1", "--port", "0"] =
        .ok (some ⟨some "127.0.0.1", some 0⟩) ∧
      Settings.load [("ID_SEED", "42"), ("Write_Signal_Path", "/livez")] = .ok probedSettings ∧
      grantingMachine.surroundings.AreSound ∧
      List.Forall₂ Makes fourDrafts (unreadableRequest :: threeRequests) ∧
      (∀ draft ∈ fourDrafts, draft.IsOrdinary) ∧
      (makeSource grantingMachine.entropy (some 42)).1.Supplies eventIds ∧
      (∃ router, serviceRoutes "/livez" = .ok router ∧
        LivesAsInProcess grantingMachine.surroundings
          (ListenArgs.apply ⟨some "127.0.0.1", some 0⟩ probedSettings) router fourDrafts
          (unreadableRequest :: threeRequests) .terminate) ∧
      grantingMachine.surroundings.bind "127.0.0.1:0" = .ok "127.0.0.1:40100" ∧
      taken grantingMachine.surroundings.server.takes fourDrafts
        (unreadableRequest :: threeRequests) = threeRequests ∧
      IsRefused (listen refusingMachine (ListenArgs.apply ⟨some "127.0.0.1", some 0⟩ probedSettings)
          fourDrafts .interrupt)
        (ListenArgs.apply ⟨some "127.0.0.1", some 0⟩ probedSettings)
        "Address already in use (os error 98)" := by
  have hmake : List.Forall₂ Makes fourDrafts (unreadableRequest :: threeRequests) :=
    .cons rfl (.cons rfl (.cons rfl (.cons rfl .nil)))
  obtain ⟨router, hrouter, hlives, -⟩ := listen_lives_as_in_process load_probedSettings
    ⟨some "127.0.0.1", some 0⟩ grantingMachine.surroundings hmake isOrdinary_of_mem_fourDrafts
    .terminate
  obtain ⟨-, -, -, hrefused⟩ := listen_lives_as_in_process load_probedSettings
    ⟨some "127.0.0.1", some 0⟩ refusingMachine.surroundings hmake isOrdinary_of_mem_fourDrafts
    .interrupt
  have hlives := hlives grantingMachine.areSound_surroundings
  exact ⟨by rfl, load_probedSettings, grantingMachine.areSound_surroundings, hmake,
    isOrdinary_of_mem_fourDrafts, supplies_grantingMachine, ⟨router, hrouter, hlives⟩, rfl, by rfl,
    hrefused _ rfl⟩

/-- In process a signal is written even if its length cannot be told. A client that sends it to the
    service is refused by the server, and no event tells of it. -/
theorem unreadable_length_is_refused :
    Settings.load [("ID_SEED", "42"), ("Write_Signal_Path", "/livez")] = .ok probedSettings ∧
      (∀ draft ∈ fourDrafts.take 1, draft.IsOrdinary) ∧
      List.Forall₂ Makes (fourDrafts.take 1) [unreadableRequest] ∧
      listen grantingMachine (ListenArgs.apply ⟨some "127.0.0.1", some 0⟩ probedSettings)
          (fourDrafts.take 1) .terminate =
        ⟨.stopped, [.answered (.empty 400 [])],
          [seededEvent 42, runningEvent "127.0.0.1:40100" "/livez", shutdownEvent, stoppedEvent]⟩ ∧
      ∃ router id, serviceRoutes "/livez" = .ok router ∧
        (served grantingMachine.entropy (ListenArgs.apply ⟨some "127.0.0.1", some 0⟩ probedSettings)
          router [unreadableRequest]).1 = [.ok (.signalWritten id)] ∧
        (Answer.signalWritten id).response.status = 200 ∧
        ¬ List.Forall₂ ShowsOutcome
          (served grantingMachine.entropy
            (ListenArgs.apply ⟨some "127.0.0.1", some 0⟩ probedSettings) router
            [unreadableRequest]).1
          (listen grantingMachine (ListenArgs.apply ⟨some "127.0.0.1", some 0⟩ probedSettings)
            (fourDrafts.take 1) .terminate).exchanges := by
  have hordinary : ∀ draft ∈ fourDrafts.take 1, draft.IsOrdinary :=
    fun draft hdraft => isOrdinary_of_mem_fourDrafts draft (List.mem_of_mem_take hdraft)
  obtain ⟨value, hvalue⟩ := Generator.draw_isOk_of_supplies eventIds_nonempty
    supplies_grantingMachine
  have hwrites : writesSignal "/livez" unreadableRequest = true := by decide
  have hserved : (served grantingMachine.entropy
      (ListenArgs.apply ⟨some "127.0.0.1", some 0⟩ probedSettings) (serviceTable "/livez")
      [unreadableRequest]).1 = [.ok (.signalWritten (eventIds.clamp value))] := by
    have hdraw : (Generator.source.draw eventIds
        (makeSource grantingMachine.entropy (some 42)).1).1 = .ok value := hvalue
    have hanswer := answer_of_draw hwrites hdraw
    simp only [served, sentTo, List.map_cons, List.map_nil, answerAll, ListenArgs.apply,
      probedSettings, hanswer]
  have hlisten : listen grantingMachine
      (ListenArgs.apply ⟨some "127.0.0.1", some 0⟩ probedSettings) (fourDrafts.take 1) .terminate =
        ⟨.stopped, [.answered (.empty 400 [])],
          [seededEvent 42, runningEvent "127.0.0.1:40100" "/livez", shutdownEvent,
            stoppedEvent]⟩ := by
    rfl
  refine ⟨load_probedSettings, hordinary, .cons rfl .nil, hlisten, serviceTable "/livez", _,
    serviceRoutes_of_check (by decide), hserved, rfl, ?_⟩
  rw [hserved, hlisten]
  rintro (_ | ⟨⟨hstatus, -⟩, -⟩)
  have hequal : 400 = 200 := hstatus
  omega

end SignalStub
