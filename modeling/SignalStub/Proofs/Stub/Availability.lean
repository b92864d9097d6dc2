import SignalStub.CommandLine.Basic
import SignalStub.Proofs.EventId.Supply
import SignalStub.Proofs.Settings.Environment
import SignalStub.Proofs.Stub.Listening
import SignalStub.Proofs.Stub.Signals

/-! # Availability

    A service whose settings were loaded never breaks: its routes are granted, and whatever
    requests it is sent, each of them is answered with one of three statuses. Only the command line
    comes between the loading and the service, and it touches neither the write path nor the seed.

    A request is answered at once unless it writes a signal. A written signal is answered as soon
    as its draw is, and the range of the event ids is not empty. So nothing is left that could fail
    but the supply of words, which is the generator's own affair.

    The proof is an induction over the requests. The invariants are that the lock of the generator
    is not poisoned and that its words supply the range; neither needs the other.
-/

namespace SignalStub

open CommandLine Http Log Randomness Route

/-! ## One request -/

/-- The request has an answer, and its status is one of those in the table of answers. -/
def IsAnswered (outcome : Except DrawFault Answer) : Prop :=
  ∃ reply, outcome = .ok reply ∧ reply.response.status ∈ [200, 404, 405]

theorem AnswerRow.status_mem (row : AnswerRow) : row.status ∈ [200, 404, 405] := by
  cases row <;> decide

/-- An answer of a service has a status of the table. -/
theorem isAnswered_of_answer {σ : Type} {source : IdSource σ} {writePath : String}
    (haccepted : WritePath.check writePath = .ok ()) {request : Request} {state : σ}
    {reply : Answer} (h : (answer source (serviceTable writePath) request state).1 = .ok reply) :
    IsAnswered (.ok reply) := by
  obtain ⟨hlivez, hhealthz⟩ := WritePath.ne_probes_of_check haccepted
  obtain ⟨row, hrow⟩ := AnswerRow.exists_applies writePath request.method request.uri.path
  rw [AnswerRow.answer_eq_outcome source hlivez hhealthz hrow] at h
  refine ⟨reply, rfl, ?_⟩
  rw [AnswerRow.status_of_outcome h]
  exact row.status_mem

/-- A request is answered and leaves the source alone, or it draws and has the outcome of its
    draw. -/
theorem answer_step {σ : Type} (source : IdSource σ) {writePath : String}
    (haccepted : WritePath.check writePath = .ok ()) (request : Request) (state : σ) :
    (IsAnswered (answer source (serviceTable writePath) request state).1 ∧
        (answer source (serviceTable writePath) request state).2 = state) ∨
      ((answer source (serviceTable writePath) request state).2 =
          (source.draw eventIds state).2 ∧
        (∀ value, (source.draw eventIds state).1 = .ok value →
          IsAnswered (answer source (serviceTable writePath) request state).1) ∧
        ∀ fault, (source.draw eventIds state).1 = .error fault →
          (answer source (serviceTable writePath) request state).1 = .error fault) := by
  cases hwrites : writesSignal writePath request with
  | false =>
    obtain ⟨reply, hreply⟩ := answer_of_not_writesSignal source haccepted hwrites state
    have hanswered := isAnswered_of_answer haccepted (congrArg Prod.fst hreply)
    left
    rw [hreply]
    exact ⟨hanswered, rfl⟩
  | true =>
    -- what the state yields first is the value of the draw itself
    have hanswer := answer_of_writesSignal source hwrites state
    right
    refine ⟨by rw [hanswer]; rfl, ?_, ?_⟩
    · intro value hvalue
      have hyield : source.yield 0 state = .ok value := hvalue
      have hreply : (answer source (serviceTable writePath) request state).1 =
          .ok (.signalWritten (eventIds.clamp value)) := by
        rw [hanswer, hyield]
        rfl
      rw [hreply]
      exact isAnswered_of_answer haccepted hreply
    · intro fault hfault
      have hyield : source.yield 0 state = .error fault := hfault
      rw [hanswer, hyield]
      rfl

/-! ## Many requests -/

/-- The requests, all of them sent to one router. -/
def sentTo (router : Router Endpoint) (requests : List Request) :
    List (Router Endpoint × Request) :=
  requests.map fun request => (router, request)

/-- What every request keeps is kept by all of them in a row, and what follows for the outcome of
    one request follows for all outcomes. -/
theorem answerAll_induction {σ : Type} {source : IdSource σ} {router : Router Endpoint}
    {P : σ → Prop} {Q : Except DrawFault Answer → Prop}
    (hstep : ∀ request state, P state → Q (answer source router request state).1 ∧
      P (answer source router request state).2)
    (requests : List Request) (state : σ) (hstate : P state) :
    (∀ outcome ∈ (answerAll source (sentTo router requests) state).1, Q outcome) ∧
      P (answerAll source (sentTo router requests) state).2 := by
  induction requests generalizing state with
  | nil =>
    refine ⟨?_, hstate⟩
    intro outcome houtcome
    cases houtcome
  | cons request requests ih =>
    obtain ⟨hfirst, hnext⟩ := hstep request state hstate
    obtain ⟨hothers, hlast⟩ := ih _ hnext
    refine ⟨?_, hlast⟩
    intro outcome houtcome
    rcases List.mem_cons.mp houtcome with rfl | houtcome
    · exact hfirst
    · exact hothers outcome houtcome

/-! ## Requests to a service on a generator -/

section Service
variable {writePath : String} (haccepted : WritePath.check writePath = .ok ())
include haccepted

/-- The range of the event ids is not empty, so the lock is never poisoned, and a request without an
    answer is one that waits for words. -/
theorem requests_keep_lock (requests : List Request) {generator : Generator}
    (h : ¬ generator.IsPoisoned) :
    (∀ outcome ∈
        (answerAll Generator.source (sentTo (serviceTable writePath) requests) generator).1,
      IsAnswered outcome ∨ outcome = .error .endless) ∧
      ¬ (answerAll Generator.source (sentTo (serviceTable writePath) requests)
        generator).2.IsPoisoned := by
  refine answerAll_induction (P := fun generator => ¬ generator.IsPoisoned) ?_ requests generator h
  intro request state hstate
  rcases answer_step Generator.source haccepted request state with
    ⟨hanswered, hsame⟩ | ⟨hnext, hvalue, hfault⟩
  · rw [hsame]
    exact ⟨.inl hanswered, hstate⟩
  · rw [hnext]
    have hkept := Generator.isPoisoned_draw eventIds_nonempty state
    refine ⟨?_, fun hpoisoned => hstate (hkept.mp hpoisoned)⟩
    cases hdraw : (Generator.source.draw eventIds state).1 with
    | ok value => exact .inl (hvalue value hdraw)
    | error fault =>
      cases fault with
      | emptyRange => exact absurd hdraw (Generator.draw_ne_emptyRange eventIds_nonempty state)
      | endless => exact .inr (hfault _ hdraw)

/-- A generator that supplies the event ids has every request answered. -/
theorem requests_answered_of_supplies (requests : List Request) {generator : Generator}
    (h : generator.Supplies eventIds) :
    ∀ outcome ∈ (answerAll Generator.source (sentTo (serviceTable writePath) requests) generator).1,
      IsAnswered outcome := by
  refine (answerAll_induction (P := Generator.Supplies eventIds) ?_ requests generator h).1
  intro request state hstate
  rcases answer_step Generator.source haccepted request state with
    ⟨hanswered, hsame⟩ | ⟨hnext, hvalue, -⟩
  · rw [hsame]
    exact ⟨hanswered, hstate⟩
  · obtain ⟨value, hdraw⟩ := Generator.draw_isOk_of_supplies eventIds_nonempty hstate
    have hkept := Generator.supplies_draw eventIds_nonempty eventIds state
    rw [hnext]
    exact ⟨hvalue value hdraw, hkept.mpr hstate⟩

end Service

/-! ## Services whose settings were loaded -/

section Loaded
variable (entropy : Words) (settings : Settings)

/-- The outcomes of requests to a new service, with the generator that they leave. -/
def served (router : Router Endpoint) (requests : List Request) :
    List (Except DrawFault Answer) × Generator :=
  answerAll Generator.source (sentTo router requests) (makeSource entropy settings.idSeed).1

/-- What becomes of requests to a new service. -/
structure Serves (router : Router Endpoint) (requests : List Request) : Prop where
  /-- Every request has an outcome. -/
  length : (served entropy settings router requests).1.length = requests.length
  /-- No request leaves a poisoned lock behind. -/
  lock : ¬ (served entropy settings router requests).2.IsPoisoned
  /-- No draw fails: a request without an answer is one whose draw goes on and on. -/
  outcome : ∀ outcome ∈ (served entropy settings router requests).1,
    IsAnswered outcome ∨ outcome = .error .endless
  /-- If the words of the generator let every draw come to an end, every request is answered. -/
  answered : (makeSource entropy settings.idSeed).1.Supplies eventIds →
    ∀ outcome ∈ (served entropy settings router requests).1, IsAnswered outcome

/-- A service with these settings comes up and never breaks, whatever it is sent. -/
structure Available : Prop where
  /-- The write path begins at the root. -/
  absolute : ∃ rest, settings.writePath.toList = '/' :: rest
  /-- Nothing in the write path is read as a wildcard. -/
  literal : Pattern.read settings.writePath = .ok (literals settings.writePath.toList)
  /-- The write path stands in the way of no probe. -/
  apart : ∀ probe ∈ [livezPath, healthzPath], ∃ pieces, Pattern.read probe = .ok pieces ∧
    Router.clash (literals settings.writePath.toList) pieces = false
  /-- The routes are granted, and they serve all requests. -/
  serves : ∃ router, serviceRoutes settings.writePath = .ok router ∧
    ∀ requests, Serves entropy settings router requests
  /-- No run of the service ends for want of a route. -/
  routable : ∀ (machine : Machine) (drafts : List Draft) (signal : ShutdownSignal)
    (fault : RouteFault), (listen machine settings drafts signal).ending ≠ .unroutable fault

end Loaded

theorem available_of_check {settings : Settings} (entropy : Words)
    (haccepted : WritePath.check settings.writePath = .ok ()) : Available entropy settings := by
  obtain ⟨habsolute, hliteral, hlivez, hhealthz⟩ :=
    (WritePath.check_eq_ok_iff settings.writePath).mp haccepted
  have hplain : IsPlain settings.writePath := isPlain_of_isLiteral hliteral
  have hapart : ∀ probe : String, IsPlain probe → settings.writePath ≠ probe →
      ∃ pieces, Pattern.read probe = .ok pieces ∧
        Router.clash (literals settings.writePath.toList) pieces = false := by
    intro probe hprobe hother
    refine ⟨literals probe.toList, read_of_isPlain hprobe, ?_⟩
    rw [← Bool.not_eq_true, clash_literals]
    exact fun hsame => hother (String.toList_inj.mp hsame)
  refine ⟨WritePath.toList_of_isAbsolute habsolute, read_of_isPlain hplain, ?_, ?_,
    fun _ => Surroundings.listen_ending_ne_unroutable haccepted⟩
  · intro probe hmem
    simp only [List.mem_cons, List.not_mem_nil, or_false] at hmem
    rcases hmem with rfl | rfl
    · exact hapart livezPath isPlain_livezPath hlivez
    · exact hapart healthzPath isPlain_healthzPath hhealthz
  · refine ⟨serviceTable settings.writePath, serviceRoutes_of_check haccepted, ?_⟩
    intro requests
    have hnew := Generator.not_isPoisoned_ofSeed? entropy settings.idSeed
    obtain ⟨houtcome, hlock⟩ := requests_keep_lock haccepted requests hnew
    refine ⟨?_, hlock, houtcome, requests_answered_of_supplies haccepted requests⟩
    simp [served, sentTo]

/-- Settings that were loaded, with a host and a port from the command line, make a service that is
    available. -/
theorem loaded_settings_are_available {env : Environment} {settings : Settings}
    (hload : Settings.load env = .ok settings) (args : ListenArgs) (entropy : Words) :
    Available entropy (args.apply settings) := by
  obtain ⟨-, haccepted⟩ := (Settings.load_eq_ok_iff env settings).mp hload
  exact available_of_check entropy haccepted

/-- A seed and a write path next to a probe, with a host from the command line. The words of this
    seed supply the event ids. -/
theorem seeded_service_is_available :
    Settings.load [("ID_SEED", "42"), ("Write_Signal_Path", "/livez")] =
        .ok { Settings.default with idSeed := some 42, writePath := "/livez" } ∧
      Available (.ofSeed 0) (ListenArgs.apply ⟨some "127.0.0.1", none⟩
        { Settings.default with idSeed := some 42, writePath := "/livez" }) ∧
      (makeSource (.ofSeed 0) (some 42)).1.Supplies eventIds := by
  have hload : Settings.load [("ID_SEED", "42"), ("Write_Signal_Path", "/livez")] =
      .ok { Settings.default with idSeed := some 42, writePath := "/livez" } := by rfl
  refine ⟨hload, loaded_settings_are_available hload _ _, ?_⟩
  exact (Words.supplies_ofKey_iff eventIds (Seed.key 42)).mpr ⟨0, by decide +kernel⟩

end SignalStub
