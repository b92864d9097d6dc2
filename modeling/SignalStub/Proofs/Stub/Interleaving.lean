import SignalStub.Proofs.EventId.Supply
import SignalStub.Proofs.Stub.Signals
import SignalStub.Proofs.Stub.Steps

/-! # Signals written at the same time

    Services over one seeded generator handle any number of requests at once. The order of the
    draws decides which written signal is given which id, and nothing else does: in every state that
    a schedule leads to, the drawn ids are the beginning of the sequence of the seed, each of them
    belongs to one request, and it is this id that the request logs and answers. When all signals
    are answered, the answered ids are that beginning in some order.

    The invariant comes from the single steps. What is left to see here is that a service draws for
    the written signals alone, and that no other response tells of an id.
-/

namespace SignalStub

open Http Log Randomness Route InFlight

/-! ## Ids in responses -/

/-- The event id that a response tells of. -/
def Http.Response.eventId? (response : Response) : Option Nat :=
  match Document.read? response.body with
  | some ⟨[(name, .number id)]⟩ => if name = "ceh_event_id" then some id else none
  | _ => none

theorem eventId?_of_empty {response : Response} (h : response.body = "") :
    response.eventId? = none := by
  have hread : Document.read? "" = none := by decide
  rw [Response.eventId?, h, hread]

theorem eventId?_signalResponse (id : UInt32) :
    (Answer.signalResponse id).eventId? = some id.toNat := by
  have hread : Document.read? (Answer.signalResponse id).body =
      some ⟨[("ceh_event_id", .number id.toNat)]⟩ := Document.read?_render _
  rw [Response.eventId?, hread]
  rfl

/-- A request that draws no id is not answered with one. -/
theorem eventId?_of_drawFree {kind : String} {router : Router Endpoint} {request : Request}
    {reply : Answer} (h : drawFree kind router request = some reply) :
    reply.response.eventId? = none := by
  unfold drawFree at h
  split at h
  next => cases h
  next =>
    obtain rfl := Option.some.inj h
    apply eventId?_of_empty
    unfold Answer.forMethod
    split <;> rfl
  next =>
    obtain rfl := Option.some.inj h
    unfold Answer.forMethod
    split
    · exact eventId?_of_empty rfl
    · have hread : Document.read? (Answer.healthy kind).response.body =
          some ⟨[("status", .text "ok"), ("id_source", .text kind),
            ("id_range", .numbers [eventIds.lo.toNat, eventIds.hi.toNat])]⟩ :=
        Document.read?_render _
      rw [Response.eventId?, hread]
  next =>
    obtain rfl := Option.some.inj h
    exact eventId?_of_empty rfl
  next =>
    obtain rfl := Option.some.inj h
    have hread : Document.read? (Answer.notFound request.uri.path).response.body =
        some ⟨[("error", .text "not found"), ("path", .text request.uri.path)]⟩ :=
      Document.read?_render _
    rw [Response.eventId?, hread]

theorem answer_of_drawFree {σ : Type} {source : IdSource σ} {router : Router Endpoint}
    {request : Request} {state : σ} {reply : Answer}
    (h : drawFree (source.kind state) router request = some reply) :
    answer source router request state = (.ok reply, state) := by
  rw [answer, h]

/-! ## Answered ids -/

namespace InFlight

/-- The event id that a request was answered with. -/
def eventId? {σ : Type} (s : InFlight σ) (i : Nat) : Option Nat :=
  match s.phase i with
  | .responded response => response.eventId?
  | _ => none

/-- Whether the response of a request has left. -/
def hasResponded {σ : Type} (s : InFlight σ) (i : Nat) : Bool :=
  match s.phase i with
  | .responded _ => true
  | _ => false

theorem hasResponded_iff {σ : Type} {s : InFlight σ} {i : Nat} :
    s.hasResponded i = true ↔ ∃ response, s.phase i = .responded response := by
  unfold hasResponded
  cases s.phase i <;> simp

/-- The event ids that the first `n` requests were answered with. -/
def answeredIds {σ : Type} (s : InFlight σ) (n : Nat) : List Nat :=
  (List.range n).filterMap s.eventId?

section Answered
variable {σ : Type} {source : IdSource σ} {jobs : List Job} {initial : σ} {s : InFlight σ}

/-- The jobs write signals by POST alone. -/
def PostOnly (jobs : List Job) : Prop :=
  ∀ job ∈ jobs, job.Draws → job.2.method = .post

/-- A request that has responded was answered with the id that it drew, or with none. -/
theorem Inv.eventId?_of_responded (hs : Inv source jobs initial s) (hpost : PostOnly jobs) {i : Nat}
    {response : Response} (hphase : s.phase i = .responded response) :
    s.eventId? i = (s.idsOf i).head?.map UInt32.toNat := by
  have hid : s.eventId? i = response.eventId? := by rw [eventId?, hphase]
  cases hjob : jobs[i]? with
  | none =>
    have hidle := (hs.idle i hjob).1
    rw [hphase] at hidle
    cases hidle
  | some job =>
    have hprogress := hs.progress i job hjob
    rw [hphase] at hprogress
    obtain ⟨reply, hcomes, -, rfl⟩ := hprogress.of_responded
    rw [hid]
    generalize s.idsOf i = ids at hcomes
    cases hcomes with
    | written hdraws =>
      have hmethod := hpost job (List.mem_of_getElem? hjob) hdraws
      rw [hmethod]
      exact eventId?_signalResponse _
    | free hfree => exact eventId?_of_drawFree hfree

/-- A request was answered with an id exactly if it has responded and drew this id. -/
theorem Inv.eventId?_eq_some_iff (hs : Inv source jobs initial s) (hpost : PostOnly jobs) {i v : Nat} :
    s.eventId? i = some v ↔
      s.hasResponded i = true ∧ ∃ id, (i, id) ∈ s.draws ∧ id.toNat = v := by
  rw [hasResponded_iff]
  constructor
  · intro h
    obtain ⟨response, hphase⟩ : ∃ response, s.phase i = .responded response := by
      unfold eventId? at h
      split at h
      next response hphase => exact ⟨response, hphase⟩
      next => cases h
    rw [hs.eventId?_of_responded hpost hphase] at h
    obtain ⟨id, hid, hv⟩ := Option.map_eq_some_iff.mp h
    exact ⟨⟨response, hphase⟩, id, mem_idsOf.mp (List.mem_of_head? hid), hv⟩
  · rintro ⟨⟨response, hphase⟩, id, hdraw, rfl⟩
    obtain ⟨-, -, -, hone⟩ := hs.owner hdraw
    rw [hs.eventId?_of_responded hpost hphase, hone]
    rfl

/-- The answered ids are the drawn ones, as far as the requests that drew them have responded:
    none is lost and none is answered twice. -/
theorem Inv.answeredIds_perm (hs : Inv source jobs initial s) (hpost : PostOnly jobs) :
    (s.answeredIds jobs.length).Perm
      ((s.draws.filter fun draw => s.hasResponded draw.1).map fun draw => draw.2.toNat) := by
  -- with the numbers of the requests beside them the ids occur once on each side
  have hpairs : ((List.range jobs.length).filterMap fun i => (s.eventId? i).map (Prod.mk i)).Perm
      ((s.draws.filter fun draw => s.hasResponded draw.1).map fun draw =>
        (draw.1, draw.2.toNat)) := by
    have hleft : ((List.range jobs.length).filterMap
        fun i => (s.eventId? i).map (Prod.mk i)).Nodup := by
      apply List.Nodup.filterMap _ List.nodup_range
      intro i j pair hi hj
      obtain ⟨v, _, rfl⟩ := Option.map_eq_some_iff.mp hi
      obtain ⟨w, _, hpair⟩ := Option.map_eq_some_iff.mp hj
      exact (congrArg Prod.fst hpair).symm
    have hright : ((s.draws.filter fun draw => s.hasResponded draw.1).map fun draw =>
        (draw.1, draw.2.toNat)).Nodup := by
      have hdraws := (List.Nodup.of_map Prod.fst hs.nodup_draws).filter
        fun draw => s.hasResponded draw.1
      apply hdraws.map
      rintro ⟨i, id⟩ ⟨j, other⟩ hsame
      obtain ⟨hi, hid⟩ := Prod.mk.inj hsame
      exact Prod.ext hi (UInt32.toNat_inj.mp hid)
    rw [List.perm_ext_iff_of_nodup hleft hright]
    rintro ⟨i, v⟩
    have hiff := hs.eventId?_eq_some_iff hpost (i := i) (v := v)
    constructor
    · intro hmem
      obtain ⟨j, -, hj⟩ := List.mem_filterMap.mp hmem
      obtain ⟨w, hw, hpair⟩ := Option.map_eq_some_iff.mp hj
      obtain ⟨rfl, rfl⟩ := Prod.mk.inj hpair
      obtain ⟨hresponded, id, hdraw, rfl⟩ := hiff.mp hw
      exact List.mem_map.mpr ⟨(j, id), List.mem_filter.mpr ⟨hdraw, hresponded⟩, rfl⟩
    · intro hmem
      obtain ⟨⟨j, id⟩, hdraw, hpair⟩ := List.mem_map.mp hmem
      obtain ⟨rfl, rfl⟩ := Prod.mk.inj hpair
      obtain ⟨hdraw, hresponded⟩ := List.mem_filter.mp hdraw
      obtain ⟨job, hjob, -, -⟩ := hs.owner hdraw
      obtain ⟨hlt, -⟩ := List.getElem?_eq_some_iff.mp hjob
      have hid := hiff.mpr ⟨hresponded, id, hdraw, rfl⟩
      exact List.mem_filterMap.mpr ⟨j, List.mem_range.mpr hlt, by rw [hid]; rfl⟩
  have hids := hpairs.map Prod.snd
  simpa [List.map_filterMap, answeredIds, Function.comp_def] using hids

end Answered

/-! ## What a request shows -/

/-- The request has logged nothing and answered nothing. -/
def IsSilent {σ : Type} (s : InFlight σ) (i : Nat) : Prop :=
  s.eventsOf i = [] ∧ s.hasResponded i = false

/-- What the request has logged, and what it has responded if it has, are those of an answer. -/
structure Shows {σ : Type} (s : InFlight σ) (i : Nat) (reply : Answer) : Prop where
  events : s.eventsOf i = reply.events
  response : ∀ response, s.phase i = .responded response → response = reply.response

/-- A request shows nothing until it shows the answer that it comes to. -/
theorem Inv.isSilent_or_shows {σ : Type} {source : IdSource σ} {jobs : List Job} {initial : σ}
    {s : InFlight σ} (hs : Inv source jobs initial s) {i : Nat} {job : Job}
    (hjob : jobs[i]? = some job) :
    s.IsSilent i ∨ ∃ reply, ComesTo source job (s.idsOf i) reply ∧ s.Shows i reply := by
  have hprogress := hs.progress i job hjob
  cases hphase : s.phase i with
  | waiting =>
    rw [hphase] at hprogress
    exact .inl ⟨hprogress.of_waiting.2, by rw [hasResponded, hphase]⟩
  | drawn id =>
    rw [hphase] at hprogress
    exact .inl ⟨hprogress.of_drawn.2.2, by rw [hasResponded, hphase]⟩
  | logged reply =>
    rw [hphase] at hprogress
    obtain ⟨hcomes, hevents⟩ := hprogress.of_logged
    exact .inr ⟨reply, hcomes, hevents, by simp [hphase]⟩
  | responded response =>
    rw [hphase] at hprogress
    obtain ⟨reply, hcomes, hevents, hresponse⟩ := hprogress.of_responded
    exact .inr ⟨reply, hcomes, hevents, by simp [hphase, hresponse]⟩

end InFlight

/-! ## Services over one generator -/

/-- A service writes a signal exactly for a POST on its write path. -/
theorem draws_iff_writesSignal {writePath : String} (haccepted : WritePath.check writePath = .ok ())
    (request : Request) :
    Job.Draws (serviceTable writePath, request) ↔ writesSignal writePath request = true := by
  obtain ⟨hlivez, hhealthz⟩ := WritePath.ne_probes_of_check haccepted
  unfold Job.Draws
  by_cases hwrite : request.uri.path = writePath
  · rw [hwrite, dispatch_writePath]
    by_cases hpost : request.method = .post
    · simp [writesSignal, hwrite, hpost]
    · simp [writesSignal, hpost]
  · have hnone : writesSignal writePath request = false := by simp [writesSignal, hwrite]
    rw [hnone]
    by_cases hl : request.uri.path = livezPath
    · rw [hl, dispatch_livez hlivez]
      split <;> simp
    · by_cases hh : request.uri.path = healthzPath
      · rw [hh, dispatch_healthz hhealthz]
        split <;> simp
      · rw [dispatch_other hwrite hl hh]
        simp

section Services
variable {n : Nat} {paths : Fin n → String}

theorem getElem?_addressed (routers : Fin n → Router Endpoint) (sent : Sent n) (i : Nat) :
    (sent.addressed routers)[i]? = sent[i]?.map fun job => (routers job.1, job.2) :=
  List.getElem?_map

theorem length_addressed (routers : Fin n → Router Endpoint) (sent : Sent n) :
    (sent.addressed routers).length = sent.length := by
  simp [Sent.addressed]

/-- The numbers of the elements with a property are as many as the elements. -/
theorem countP_range_getElem? {α : Type} (p : α → Bool) (l : List α) :
    (List.range l.length).countP (fun i => l[i]?.any p) = l.countP p := by
  induction l with
  | nil => rfl
  | cons a l ih =>
    rw [List.length_cons, List.range_succ_eq_map, List.countP_cons, List.countP_map,
      List.countP_cons, ← ih]
    simp [Function.comp_def]

/-- What services over the generator of a seed make of requests that they handle at once, in the
    state that a schedule leads to. -/
structure KeepsDraws (seed : UInt64) (paths : Fin n → String) (routers : Fin n → Router Endpoint)
    (sent : Sent n) (schedule : List Label) (s : InFlight SeededGenerator) : Prop where
  /-- The drawn ids are the first ones of the seed, as many as draws were made. -/
  sequence : SeededGenerator.source.nextEventIds (schedule.countP Label.isDraw) (.ofSeed seed) =
    (.ok (s.draws.map Prod.snd), s.source)
  /-- Each of them belongs to one written signal. -/
  owners : (s.draws.map Prod.fst).Nodup ∧ ∀ i id, (i, id) ∈ s.draws →
    ∃ job, sent[i]? = some job ∧ writesOn paths job = true
  /-- A written signal logs and answers the id that it drew itself, once it does. -/
  signal : ∀ i job, sent[i]? = some job → writesOn paths job = true →
    s.IsSilent i ∨ ∃ id reply, (i, id) ∈ s.draws ∧ reply.Tells id ∧ s.Shows i reply
  /-- Every other request draws nothing, and is answered as if it were alone. -/
  other : ∀ i job, sent[i]? = some job → writesOn paths job = false →
    s.idsOf i = [] ∧ (s.IsSilent i ∨ ∃ reply, s.Shows i reply ∧ ∀ state,
      answer SeededGenerator.source (routers job.1) job.2 state = (.ok reply, state))
  /-- The answered ids are the drawn ones, as far as their requests have responded. -/
  settled : (s.answeredIds sent.length).Perm
    ((s.draws.filter fun draw => s.hasResponded draw.1).map fun draw => draw.2.toNat)
  /-- When every written signal has its response, the answered ids are the first ones of the seed,
      as many as signals were written. -/
  complete : (∀ i job, sent[i]? = some job → writesOn paths job = true → s.hasResponded i = true) →
    schedule.countP Label.isDraw = sent.signals paths ∧
      ∃ ids, (SeededGenerator.source.nextEventIds (sent.signals paths) (.ofSeed seed)).1 = .ok ids ∧
        (s.answeredIds sent.length).Perm (ids.map UInt32.toNat)
  /-- If the words of the seed let every draw come to an end, no request waits for another. -/
  alive : (SeededGenerator.ofSeed seed).words.Supplies eventIds → ∀ i job, sent[i]? = some job →
    s.hasResponded i = true ∨ ∃ label t, label.request = i ∧
      step SeededGenerator.source (sent.addressed routers) s label = some t

section Proof
variable (haccepted : ∀ i, WritePath.check (paths i) = .ok ()) {sent : Sent n}
include haccepted

theorem postOnly_addressed : PostOnly (sent.addressed fun i => serviceTable (paths i)) := by
  intro request hmem hdraws
  obtain ⟨job, -, rfl⟩ := List.mem_map.mp hmem
  have hwrites := (draws_iff_writesSignal (haccepted job.1) job.2).mp hdraws
  simp only [writesSignal, Bool.and_eq_true, decide_eq_true_eq] at hwrites
  exact hwrites.1

variable {σ : Type} {source : IdSource σ} {initial : σ} {s : InFlight σ}
  (hs : Inv source (sent.addressed fun i => serviceTable (paths i)) initial s)
include hs

/-- Only written signals draw. -/
theorem writesOn_of_draw {i : Nat} {id : UInt32} (hdraw : (i, id) ∈ s.draws) :
    ∃ job, sent[i]? = some job ∧ writesOn paths job = true := by
  obtain ⟨request, hrequest, hdraws, -⟩ := hs.owner hdraw
  rw [getElem?_addressed] at hrequest
  obtain ⟨job, hjob, rfl⟩ := Option.map_eq_some_iff.mp hrequest
  exact ⟨job, hjob, (draws_iff_writesSignal (haccepted job.1) job.2).mp hdraws⟩

/-- A written signal shows the id that it drew itself. -/
theorem signal_shows {i : Nat} {job : Fin n × Request} (hjob : sent[i]? = some job)
    (hwrites : writesOn paths job = true) :
    s.IsSilent i ∨ ∃ id reply, (i, id) ∈ s.draws ∧ reply.Tells id ∧ s.Shows i reply := by
  have hrequest := getElem?_addressed (fun i => serviceTable (paths i)) sent i
  rw [hjob, Option.map_some] at hrequest
  have hdraws := (draws_iff_writesSignal (haccepted job.1) job.2).mpr hwrites
  rcases hs.isSilent_or_shows hrequest with hsilent | ⟨reply, hcomes, hshows⟩
  · exact .inl hsilent
  · right
    generalize hids : s.idsOf i = ids at hcomes
    cases hcomes with
    | @written id _ =>
      have hdraw : (i, id) ∈ s.draws := mem_idsOf.mp (hids ▸ List.mem_singleton_self id)
      have hpost := postOnly_addressed haccepted _ (List.mem_of_getElem? hrequest) hdraws
      rw [hpost] at hshows
      exact ⟨id, _, hdraw, Answer.signalWritten_tells id, hshows⟩
    | @free state _ hfree =>
      have hnone := (drawFree_eq_none_iff (source.kind state) _ _).mpr hdraws
      rw [hfree] at hnone
      cases hnone

/-- A request that writes no signal shows the answer that it has alone. -/
theorem other_shows {i : Nat} {job : Fin n × Request} (hjob : sent[i]? = some job)
    (hwrites : writesOn paths job = false) :
    s.idsOf i = [] ∧ (s.IsSilent i ∨ ∃ reply, s.Shows i reply ∧ ∃ state,
      drawFree (source.kind state) (serviceTable (paths job.1)) job.2 = some reply) := by
  have hrequest := getElem?_addressed (fun i => serviceTable (paths i)) sent i
  rw [hjob, Option.map_some] at hrequest
  have hids : s.idsOf i = [] := by
    rw [List.eq_nil_iff_forall_not_mem]
    intro id hid
    obtain ⟨other, hother, hother_writes⟩ := writesOn_of_draw haccepted hs (mem_idsOf.mp hid)
    obtain rfl : job = other := Option.some.inj (hjob.symm.trans hother)
    rw [hwrites] at hother_writes
    cases hother_writes
  refine ⟨hids, ?_⟩
  rcases hs.isSilent_or_shows hrequest with hsilent | ⟨reply, hcomes, hshows⟩
  · exact .inl hsilent
  · right
    rw [hids] at hcomes
    cases hcomes with
    | @free state _ hfree => exact ⟨reply, hshows, state, hfree⟩

/-- When every written signal has its response, as many ids are drawn as signals were written. -/
theorem length_draws_of_responded
    (hall : ∀ i job, sent[i]? = some job → writesOn paths job = true → s.hasResponded i = true) :
    s.draws.length = sent.signals paths := by
  have hmem : ∀ i, i ∈ s.draws.map Prod.fst ↔
      i ∈ (List.range sent.length).filter fun i => sent[i]?.any (writesOn paths) := by
    intro i
    constructor
    · intro h
      obtain ⟨⟨j, id⟩, hdraw, rfl⟩ := List.mem_map.mp h
      obtain ⟨job, hjob, hwrites⟩ := writesOn_of_draw haccepted hs hdraw
      obtain ⟨hlt, -⟩ := List.getElem?_eq_some_iff.mp hjob
      refine List.mem_filter.mpr ⟨List.mem_range.mpr hlt, ?_⟩
      simpa [hjob] using hwrites
    · intro h
      obtain ⟨-, hany⟩ := List.mem_filter.mp h
      cases hjob : sent[i]? with
      | none => simp [hjob] at hany
      | some job =>
        have hwrites : writesOn paths job = true := by simpa [hjob] using hany
        rcases signal_shows haccepted hs hjob hwrites with ⟨-, hnot⟩ | ⟨id, -, hdraw, -⟩
        · rw [hall i job hjob hwrites] at hnot
          cases hnot
        · exact List.mem_map.mpr ⟨(i, id), hdraw, rfl⟩
  have hperm := (List.perm_ext_iff_of_nodup hs.nodup_draws (List.nodup_range.filter _)).mpr hmem
  have hlength := hperm.length_eq
  rw [List.length_map, ← List.countP_eq_length_filter, countP_range_getElem?] at hlength
  exact hlength

end Proof

section Reached
variable {seed : UInt64} (haccepted : ∀ i, WritePath.check (paths i) = .ok ()) {sent : Sent n}
  {s : InFlight SeededGenerator}
  (hs : Inv SeededGenerator.source (sent.addressed fun i => serviceTable (paths i))
    (.ofSeed seed) s)
include haccepted hs

/-- When every written signal has its response, the answered ids are all that were drawn. -/
theorem answeredIds_of_responded
    (hall : ∀ i job, sent[i]? = some job → writesOn paths job = true → s.hasResponded i = true) :
    ∃ ids, (SeededGenerator.source.nextEventIds (sent.signals paths) (.ofSeed seed)).1 = .ok ids ∧
      (s.answeredIds sent.length).Perm (ids.map UInt32.toNat) := by
  have hsettled := hs.answeredIds_perm (postOnly_addressed haccepted)
  have heveryDraw : (s.draws.filter fun draw => s.hasResponded draw.1) = s.draws := by
    rw [List.filter_eq_self]
    intro draw hdraw
    obtain ⟨job, hjob, hwrites⟩ := writesOn_of_draw haccepted hs hdraw
    exact hall draw.1 job hjob hwrites
  rw [heveryDraw, length_addressed] at hsettled
  refine ⟨s.draws.map Prod.snd, ?_, ?_⟩
  · rw [← length_draws_of_responded haccepted hs hall, hs.sequence]
  · rw [List.map_map]
    exact hsettled

omit haccepted in
/-- The generator supplies what it supplied before the draws, so the next step is possible. -/
theorem exists_step_of_supplies (hsupplies : (SeededGenerator.ofSeed seed).words.Supplies eventIds)
    {i : Nat} {job : Fin n × Request} (hjob : sent[i]? = some job) :
    s.hasResponded i = true ∨ ∃ label t, label.request = i ∧
      step SeededGenerator.source (sent.addressed fun i => serviceTable (paths i)) s label =
        some t := by
  have hstate : s.source.words.Supplies eventIds := by
    have hkept := SeededGenerator.supplies_nextEventIds eventIds s.draws.length (.ofSeed seed)
    rw [hs.sequence] at hkept
    exact hkept.mpr hsupplies
  obtain ⟨id, next, hid⟩ := SeededGenerator.nextEventId_isOk_of_supplies hstate
  have hrequest := getElem?_addressed (fun i => serviceTable (paths i)) sent i
  rw [hjob, Option.map_some] at hrequest
  rw [hasResponded_iff]
  exact exists_step hid hrequest

end Reached

theorem serviceTables_keepDraws (seed : UInt64)
    (haccepted : ∀ i, WritePath.check (paths i) = .ok ()) {sent : Sent n} {schedule : List Label}
    {s : InFlight SeededGenerator}
    (hrun : takeSteps SeededGenerator.source (sent.addressed fun i => serviceTable (paths i))
      schedule (start (.ofSeed seed)) = some s) :
    KeepsDraws seed paths (fun i => serviceTable (paths i)) sent schedule s := by
  have hs := ((reachable_iff_takeSteps s).mpr ⟨schedule, hrun⟩).inv
  have hcount : s.draws.length = schedule.countP Label.isDraw := by
    have hlength := length_draws_takeSteps hrun
    rwa [start, List.length_nil, Nat.zero_add] at hlength
  have hsettled := hs.answeredIds_perm (postOnly_addressed haccepted)
  rw [length_addressed] at hsettled
  refine ⟨hcount ▸ hs.sequence, ⟨hs.nodup_draws, fun i id => writesOn_of_draw haccepted hs⟩,
    fun i job => signal_shows haccepted hs, ?_, hsettled, ?_,
    fun hsupplies i job => exists_step_of_supplies hs hsupplies⟩
  · intro i job hjob hwrites
    obtain ⟨hids, hshows⟩ := other_shows haccepted hs hjob hwrites
    refine ⟨hids, hshows.imp_right ?_⟩
    rintro ⟨reply, hreply, other, hfree⟩
    refine ⟨reply, hreply, ?_⟩
    -- a seeded generator is of the same kind in every state
    intro state
    exact answer_of_drawFree hfree
  · intro hall
    exact ⟨hcount ▸ length_draws_of_responded haccepted hs hall,
      answeredIds_of_responded haccepted hs hall⟩

end Services

/-- Services with accepted write paths over one seeded generator give every written signal the id
    that it drew itself, and together the ids of the seed, whatever the order of the steps. -/
theorem interleaved_signals_keep_their_draws {n : Nat} (paths : Fin n → String)
    (haccepted : ∀ i, WritePath.check (paths i) = .ok ()) :
    ∃ routers : Fin n → Router Endpoint, (∀ i, serviceRoutes (paths i) = .ok (routers i)) ∧
      ∀ (seed : UInt64) (sent : Sent n) (schedule : List Label) (s : InFlight SeededGenerator),
        takeSteps SeededGenerator.source (sent.addressed routers) schedule
            (start (.ofSeed seed)) = some s →
          KeepsDraws seed paths routers sent schedule s :=
  ⟨fun i => serviceTable (paths i), fun i => serviceRoutes_of_check (haccepted i),
    fun seed _ _ _ hrun => serviceTables_keepDraws seed haccepted hrun⟩

/-- Two signals on different paths and a probe. The second signal draws before the first, and the
    probe responds before both. -/
def crossedRequests : Sent 2 :=
  [(0, ⟨.post, ⟨none, none, defaultWritePath, none⟩, [], ""⟩),
    (1, ⟨.get, ⟨none, none, healthzPath, none⟩, [], ""⟩),
    (1, ⟨.post, ⟨none, none, "/livez", none⟩, [], ""⟩)]

/-- An order of their steps. -/
def crossedSteps : List Label :=
  [.draw 2, .log 1, .draw 0, .log 0, .respond 1, .log 2, .respond 2, .respond 0]

/-- The first id of the seed goes to the signal that drew first. -/
theorem crossed_signals_keep_their_draws :
    (∀ i, WritePath.check (![defaultWritePath, "/livez"] i) = .ok ()) ∧
      ∃ routers : Fin 2 → Router Endpoint,
        (∀ i, serviceRoutes (![defaultWritePath, "/livez"] i) = .ok (routers i)) ∧
          ∃ s, takeSteps SeededGenerator.source (crossedRequests.addressed routers) crossedSteps
              (start (.ofSeed 42)) = some s ∧
            KeepsDraws 42 ![defaultWritePath, "/livez"] routers crossedRequests crossedSteps s ∧
              s.draws = [(2, 220068), (0, 573901)] ∧ s.answeredIds 3 = [573901, 220068] := by
  have haccepted : ∀ i, WritePath.check (![defaultWritePath, "/livez"] i) = .ok () := by decide
  obtain ⟨routers, hroutes, hkeeps⟩ :=
    interleaved_signals_keep_their_draws ![defaultWritePath, "/livez"] haccepted
  have htables : routers = fun i => serviceTable (![defaultWritePath, "/livez"] i) := by
    funext i
    exact Except.ok.inj ((hroutes i).symm.trans (serviceRoutes_of_check (haccepted i)))
  have hrun : (takeSteps SeededGenerator.source (crossedRequests.addressed routers) crossedSteps
      (start (.ofSeed 42))).map (fun s => (s.draws, s.answeredIds 3)) =
        some ([(2, 220068), (0, 573901)], [573901, 220068]) := by
    rw [htables]
    decide +kernel
  obtain ⟨s, hs, hseen⟩ := Option.map_eq_some_iff.mp hrun
  obtain ⟨hdraws, hids⟩ := Prod.mk.inj hseen
  exact ⟨haccepted, routers, hroutes, s, hs, hkeeps 42 _ _ s hs, hdraws, hids⟩

end SignalStub
