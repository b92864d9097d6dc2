import Mathlib.Data.Fin.VecNotation
import SignalStub.Proofs.EventId.Sequence
import SignalStub.Proofs.Stub.Table
import SignalStub.Proofs.Text.Document

/-! # Written signals over shared state

    Several routers, each with a write path of its own, may stand before one source. Whichever
    router a request is sent to, it draws from the source exactly if it writes a signal there, and
    then it draws once. So the written signals of all routers together take the sequence of the
    source one value after the other, and nothing else takes part in it.

    The proof is an induction over the requests. The invariant is that the state of the source is
    the one after as many draws as signals were written.
-/

namespace SignalStub

open Http Log Randomness Route

/-! ## One request -/

/-- Whether a request writes a signal on a router with a write path. -/
def writesSignal (writePath : String) (request : Request) : Bool :=
  request.method = .post && request.uri.path = writePath

section Request
variable {σ : Type} {writePath : String} (source : IdSource σ)

/-- A written signal takes the next value of the source. -/
theorem answer_of_writesSignal {request : Request} (h : writesSignal writePath request = true)
    (state : σ) :
    answer source (serviceTable writePath) request state =
      ((source.yield 0 state).map fun value => Answer.signalWritten (eventIds.clamp value),
        source.after 1 state) := by
  obtain ⟨hmethod, hpath⟩ : request.method = .post ∧ request.uri.path = writePath := by
    simpa [writesSignal] using h
  have hdispatch : (serviceTable writePath).dispatch request.method request.uri.path =
      .endpoint .writeSignal := by
    rw [hpath, dispatch_writePath, if_pos hmethod]
  unfold answer drawFree
  rw [hdispatch, source.nextEventId_eq]
  cases source.yield 0 state with
  | error fault => rfl
  | ok value =>
    simp only [Except.map, Answer.forMethod, hmethod, reduceCtorEq, if_false]

/-- Every other request is answered without the source. -/
theorem answer_of_not_writesSignal (haccepted : WritePath.check writePath = .ok ())
    {request : Request} (h : writesSignal writePath request = false) (state : σ) :
    ∃ reply, answer source (serviceTable writePath) request state = (.ok reply, state) := by
  obtain ⟨hlivez, hhealthz⟩ := WritePath.ne_probes_of_check haccepted
  obtain ⟨row, hrow⟩ := AnswerRow.exists_applies writePath request.method request.uri.path
  rw [AnswerRow.answer_eq_outcome source hlivez hhealthz hrow]
  cases row with
  | writeSignal =>
    obtain ⟨hpath, hmethod⟩ := hrow
    simp [writesSignal, hpath, hmethod] at h
  | livez => exact ⟨_, rfl⟩
  | healthz => exact ⟨_, rfl⟩
  | methodNotAllowed => exact ⟨_, rfl⟩
  | notFound => exact ⟨_, rfl⟩

end Request

/-! ## Many requests -/

theorem answerAll_append {σ : Type} (source : IdSource σ)
    (jobs others : List (Router Endpoint × Request)) (state : σ) :
    answerAll source (jobs ++ others) state =
      ((answerAll source jobs state).1 ++
          (answerAll source others (answerAll source jobs state).2).1,
        (answerAll source others (answerAll source jobs state).2).2) := by
  induction jobs generalizing state with
  | nil => rfl
  | cons job jobs ih =>
    simp only [List.cons_append, answerAll, ih]

@[simp] theorem length_answerAll {σ : Type} (source : IdSource σ)
    (jobs : List (Router Endpoint × Request)) (state : σ) :
    (answerAll source jobs state).1.length = jobs.length := by
  induction jobs generalizing state with
  | nil => rfl
  | cons job jobs ih => simp only [answerAll, List.length_cons, ih]

/-- The outcome of a request is its answer in the state that the requests before it lead to. -/
theorem getElem?_answerAll {σ : Type} (source : IdSource σ)
    (jobs others : List (Router Endpoint × Request)) (job : Router Endpoint × Request) (state : σ) :
    (answerAll source (jobs ++ job :: others) state).1[jobs.length]? =
      some (answer source job.1 job.2 (answerAll source jobs state).2).1 := by
  rw [answerAll_append, List.getElem?_append_right (by simp)]
  simp [answerAll]

/-! ## Families of routers -/

section Family
variable {σ : Type} {n : Nat}

/-- Requests, each with the number of the router that it is sent to. -/
abbrev Sent (n : Nat) := List (Fin n × Request)

/-- The requests with the routers themselves. -/
def Sent.addressed (routers : Fin n → Router Endpoint) (sent : Sent n) :
    List (Router Endpoint × Request) :=
  sent.map fun job => (routers job.1, job.2)

/-- Whether a request writes a signal on the router that it is sent to. -/
def writesOn (paths : Fin n → String) (job : Fin n × Request) : Bool :=
  writesSignal (paths job.1) job.2

/-- How many of the requests write a signal. -/
def Sent.signals (paths : Fin n → String) (sent : Sent n) : Nat :=
  sent.countP (writesOn paths)

variable {paths : Fin n → String}

/-- The source is taken further by one for every written signal. -/
theorem state_answerAll (source : IdSource σ)
    (haccepted : ∀ i, WritePath.check (paths i) = .ok ()) (sent : Sent n) (state : σ) :
    (answerAll source (sent.addressed fun i => serviceTable (paths i)) state).2 =
      source.after (sent.signals paths) state := by
  induction sent generalizing state with
  | nil => rfl
  | cons job sent ih =>
    have htail := ih (answer source (serviceTable (paths job.1)) job.2 state).2
    simp only [Sent.addressed, Sent.signals, List.map_cons, answerAll] at htail ⊢
    rw [htail]
    cases hwrites : writesOn paths job with
    | true =>
      -- the draw of this signal comes before those of the later ones
      rw [answer_of_writesSignal source hwrites, List.countP_cons_of_pos hwrites, Nat.add_comm,
        source.after_add]
    | false =>
      obtain ⟨reply, hreply⟩ := answer_of_not_writesSignal source (haccepted job.1) hwrites state
      rw [hreply, List.countP_cons_of_neg (by simp [hwrites])]

end Family

/-! ## What is told of a written signal -/

/-- The answer tells of a written signal with an event id: the body holds the id and nothing else,
    and the one event carries it as well. -/
structure Answer.Tells (reply : Answer) (id : UInt32) : Prop where
  status : reply.response.status = 200
  body : Document.read? reply.response.body = some ⟨[("ceh_event_id", .number id.toNat)]⟩
  event : ∃ event, reply.events = [event] ∧ event.level = .info ∧
    event.message = "signal written" ∧ event.fields = [("ceh_event_id", .ofNat id.toNat)]

theorem Answer.signalWritten_tells (id : UInt32) : (Answer.signalWritten id).Tells id where
  status := rfl
  body := Document.read?_render ⟨[("ceh_event_id", .number id.toNat)]⟩
  event := ⟨signalEvent id, rfl, rfl, rfl, rfl⟩

/-- The health probe of a router reports a range that an event id lies in. -/
def ReportsRangeOf {σ : Type} (source : IdSource σ) (router : Router Endpoint) (id : UInt32) :
    Prop :=
  ∀ (request : Request) (state : σ), request.method = .get → request.uri.path = healthzPath →
    ∃ reply lo hi, answer source router request state = (.ok reply, state) ∧
      Document.read? reply.response.body =
        some ⟨[("status", .text "ok"), ("id_source", .text (source.kind state)),
          ("id_range", .numbers [lo, hi])]⟩ ∧
      lo ≤ id.toNat ∧ id.toNat ≤ hi

theorem reportsRangeOf_clamp {σ : Type} (source : IdSource σ) {writePath : String}
    (haccepted : WritePath.check writePath = .ok ()) (value : UInt32) :
    ReportsRangeOf source (serviceTable writePath) (eventIds.clamp value) := by
  obtain ⟨hlivez, hhealthz⟩ := WritePath.ne_probes_of_check haccepted
  intro request state hmethod hpath
  have hrow : AnswerRow.healthz.Applies writePath request.method request.uri.path :=
    ⟨hpath, .inl hmethod⟩
  have hanswer := AnswerRow.answer_eq_outcome source hlivez hhealthz hrow state
  rw [AnswerRow.outcome, hmethod] at hanswer
  obtain ⟨hlow, hhigh⟩ := eventIds.clamp_mem eventIds_nonempty value
  exact ⟨_, _, _, hanswer, Document.read?_render _, UInt32.le_iff_toNat_le.mp hlow,
    UInt32.le_iff_toNat_le.mp hhigh⟩

/-! ## The sequence of the written signals -/

/-- What a family of routers over one source makes of requests that are sent to them: the signals
    written on all of them together are given the values that the source yields, in order. -/
structure SharesOneSequence {σ : Type} {n : Nat} (source : IdSource σ) (paths : Fin n → String)
    (routers : Fin n → Router Endpoint) (initial : σ) (sent : Sent n) : Prop where
  /-- In the end the source is where as many draws take it as signals were written. -/
  final : (answerAll source (sent.addressed routers) initial).2 =
    source.after (sent.signals paths) initial
  /-- A source that counts its draws counts the written signals. -/
  count : (answerAll source.counted (sent.addressed routers) (initial, 0)).2.2 = sent.signals paths
  /-- A written signal is answered with the value that its turn yields. -/
  signal : ∀ (before later : Sent n) (job : Fin n × Request), sent = before ++ job :: later →
    writesOn paths job = true → ∀ value, source.yield (before.signals paths) initial = .ok value →
      ∃ reply, (answerAll source (sent.addressed routers) initial).1[before.length]? =
          some (.ok reply) ∧
        reply.Tells (eventIds.clamp value) ∧
        (eventIds.lo ≤ value → value ≤ eventIds.hi → eventIds.clamp value = value) ∧
        ∀ i, ReportsRangeOf source (routers i) (eventIds.clamp value)
  /-- If its turn yields no value, it has no answer. -/
  failed : ∀ (before later : Sent n) (job : Fin n × Request), sent = before ++ job :: later →
    writesOn paths job = true →
      ∀ fault, source.yield (before.signals paths) initial = .error fault →
      (answerAll source (sent.addressed routers) initial).1[before.length]? = some (.error fault)
  /-- Every other request is answered, and leaves the source as it was. -/
  other : ∀ (before later : Sent n) (job : Fin n × Request), sent = before ++ job :: later →
    writesOn paths job = false →
      (∃ reply, (answerAll source (sent.addressed routers) initial).1[before.length]? =
        some (.ok reply)) ∧
      (answerAll source ((before ++ [job] : Sent n).addressed routers) initial).2 =
        (answerAll source (before.addressed routers) initial).2

section Outcomes
variable {σ : Type} {n : Nat} {paths : Fin n → String}

/-- The outcome of one of the requests, in terms of the signals written before it. -/
theorem outcome_of_sent (source : IdSource σ) (haccepted : ∀ i, WritePath.check (paths i) = .ok ())
    (before later : Sent n) (job : Fin n × Request) (initial : σ) :
    (answerAll source ((before ++ job :: later : Sent n).addressed fun i => serviceTable (paths i))
        initial).1[before.length]? =
      some (answer source (serviceTable (paths job.1)) job.2
        (source.after (before.signals paths) initial)).1 := by
  have hlength : before.length = (before.addressed fun i => serviceTable (paths i)).length := by
    simp [Sent.addressed]
  have hsplit : (before ++ job :: later : Sent n).addressed (fun i => serviceTable (paths i)) =
      before.addressed (fun i => serviceTable (paths i)) ++
        (serviceTable (paths job.1), job.2) ::
          Sent.addressed (fun i => serviceTable (paths i)) later := by
    simp [Sent.addressed]
  rw [hsplit, hlength, getElem?_answerAll, state_answerAll source haccepted]

/-- What a source yields in a later state is what it yields later. -/
theorem yield_after (source : IdSource σ) (k : Nat) (state : σ) :
    source.yield 0 (source.after k state) = source.yield k state := rfl

theorem serviceTables_shareOneSequence (source : IdSource σ)
    (haccepted : ∀ i, WritePath.check (paths i) = .ok ()) (initial : σ) (sent : Sent n) :
    SharesOneSequence source paths (fun i => serviceTable (paths i)) initial sent where
  final := state_answerAll source haccepted sent initial
  count := by
    rw [state_answerAll source.counted haccepted, source.after_counted]
    exact Nat.zero_add _
  signal := by
    intro before later job hsent hwrites value hvalue
    have houtcome := outcome_of_sent source haccepted before later job initial
    rw [answer_of_writesSignal source hwrites, yield_after, hvalue] at houtcome
    rw [hsent]
    exact ⟨_, houtcome, Answer.signalWritten_tells _, DrawRange.clamp_of_mem,
      fun i => reportsRangeOf_clamp source (haccepted i) value⟩
  failed := by
    intro before later job hsent hwrites fault hfault
    have houtcome := outcome_of_sent source haccepted before later job initial
    rw [answer_of_writesSignal source hwrites, yield_after, hfault] at houtcome
    rw [hsent]
    exact houtcome
  other := by
    intro before later job hsent hwrites
    have houtcome := outcome_of_sent source haccepted before later job initial
    obtain ⟨reply, hreply⟩ := answer_of_not_writesSignal source (haccepted job.1) hwrites
      (source.after (before.signals paths) initial)
    rw [hreply] at houtcome
    rw [hsent]
    refine ⟨⟨reply, houtcome⟩, ?_⟩
    -- both states are as many draws away as signals were written, and this request wrote none
    rw [state_answerAll source haccepted, state_answerAll source haccepted]
    simp [Sent.signals, hwrites]

end Outcomes

/-- Routers with accepted write paths over one source share its sequence, whatever the source is and
    whatever they are sent. -/
theorem accepted_paths_share_one_sequence {σ : Type} {n : Nat} (source : IdSource σ)
    (paths : Fin n → String) (haccepted : ∀ i, WritePath.check (paths i) = .ok ()) :
    ∃ routers : Fin n → Router Endpoint, (∀ i, serviceRoutes (paths i) = .ok (routers i)) ∧
      ∀ (initial : σ) (sent : Sent n), SharesOneSequence source paths routers initial sent :=
  ⟨fun i => serviceTable (paths i), fun i => serviceRoutes_of_check (haccepted i),
    serviceTables_shareOneSequence source haccepted⟩

/-- Two services over one generator, one of them with a write path close to a probe. -/
theorem two_paths_share_one_sequence :
    (∀ i, WritePath.check (![defaultWritePath, "/livez"] i) = .ok ()) ∧
      ∃ routers : Fin 2 → Router Endpoint,
        (∀ i, serviceRoutes (![defaultWritePath, "/livez"] i) = .ok (routers i)) ∧
          ∀ (initial : Generator) (sent : Sent 2),
            SharesOneSequence Generator.source ![defaultWritePath, "/livez"] routers initial sent :=
  ⟨by decide, accepted_paths_share_one_sequence Generator.source _ (by decide)⟩

end SignalStub
