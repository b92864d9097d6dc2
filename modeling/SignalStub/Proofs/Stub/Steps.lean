import Mathlib.Data.List.Induction
import Mathlib.Data.List.Nodup
import SignalStub.Proofs.EventId.Sequence
import SignalStub.Stub.InFlight

/-! # What the steps keep

    The steps of requests in flight come in any order, and one request never sees another but in
    the source. So a state is described request by request: how far a request has come, which event
    ids it drew and which events it logged determine each other, whatever the others do meanwhile.

    The invariant has two parts. The draws of all requests together are the beginning of the
    sequence of the source, and every single request has come as far as its own draws and events
    say. A step changes the second part for its own request alone.
-/

namespace SignalStub

open Http Log Randomness Route

/-- A request needs an event id exactly if it is dispatched to the endpoint that writes signals. -/
theorem drawFree_eq_none_iff (kind : String) (router : Router Endpoint) (request : Request) :
    drawFree kind router request = none ↔
      router.dispatch request.method request.uri.path = .endpoint .writeSignal := by
  unfold drawFree
  split <;> simp [*]

namespace InFlight

variable {σ : Type}

/-! ## Views of one request -/

/-- The event ids that a request drew. -/
def idsOf (s : InFlight σ) (i : Nat) : List UInt32 :=
  (s.draws.filter fun draw => draw.1 = i).map Prod.snd

/-- The events that a request logged. -/
def eventsOf (s : InFlight σ) (i : Nat) : List Event :=
  (s.log.filter fun entry => entry.1 = i).map Prod.snd

theorem mem_idsOf {s : InFlight σ} {i : Nat} {id : UInt32} : id ∈ s.idsOf i ↔ (i, id) ∈ s.draws := by
  simp [idsOf]

theorem count_draws (s : InFlight σ) (i : Nat) :
    (s.draws.map Prod.fst).count i = (s.idsOf i).length := by
  rw [idsOf, List.length_map, ← List.countP_eq_length_filter, List.count, List.countP_map]
  rfl

/-- The state after a draw. -/
def afterDraw (s : InFlight σ) (i : Nat) (id : UInt32) (next : σ) : InFlight σ :=
  { s.setPhase i (.drawn id) with source := next, draws := s.draws ++ [(i, id)] }

section Views
variable (s : InFlight σ) (i j : Nat)

@[simp] theorem phase_setPhase_self (phase : Phase) : (s.setPhase i phase).phase i = phase := by
  simp [setPhase]

@[simp] theorem phase_setPhase_ne (phase : Phase) (h : j ≠ i) :
    (s.setPhase i phase).phase j = s.phase j := by
  simp [setPhase, h]

@[simp] theorem idsOf_setPhase (phase : Phase) : (s.setPhase i phase).idsOf j = s.idsOf j := rfl

@[simp] theorem eventsOf_setPhase (phase : Phase) :
    (s.setPhase i phase).eventsOf j = s.eventsOf j := rfl

@[simp] theorem phase_afterDraw (id : UInt32) (next : σ) :
    (s.afterDraw i id next).phase j = (s.setPhase i (.drawn id)).phase j := rfl

@[simp] theorem idsOf_afterDraw (id : UInt32) (next : σ) :
    (s.afterDraw i id next).idsOf j = s.idsOf j ++ if i = j then [id] else [] := by
  simp only [idsOf, afterDraw, List.filter_append, List.map_append]
  by_cases h : i = j
  · simp [h]
  · simp [h]

@[simp] theorem eventsOf_afterDraw (id : UInt32) (next : σ) :
    (s.afterDraw i id next).eventsOf j = s.eventsOf j := rfl

@[simp] theorem phase_logAnswer (answer : Answer) :
    (logAnswer answer i s).phase j = (s.setPhase i (.logged answer)).phase j := rfl

@[simp] theorem idsOf_logAnswer (answer : Answer) : (logAnswer answer i s).idsOf j = s.idsOf j := rfl

@[simp] theorem eventsOf_logAnswer (answer : Answer) :
    (logAnswer answer i s).eventsOf j = s.eventsOf j ++ if i = j then answer.events else [] := by
  simp only [eventsOf, logAnswer, setPhase, List.filter_append, List.map_append]
  by_cases h : i = j
  · subst h
    simp [List.filter_map, Function.comp_def]
  · simp [h]

end Views

/-! ## Steps -/

/-- The request that a step belongs to. -/
def Label.request : Label → Nat
  | .draw i | .log i | .respond i => i

/-- Whether a step is a draw. -/
def Label.isDraw : Label → Bool
  | .draw _ => true
  | _ => false

/-- A request that writes a signal on the router that it is sent to. -/
def Job.Draws (job : Job) : Prop :=
  job.1.dispatch job.2.method job.2.uri.path = .endpoint .writeSignal

/-- Everything that a step can do. -/
inductive Move (source : IdSource σ) (jobs : List Job) (s : InFlight σ) : Label → InFlight σ → Prop
  | draw {i : Nat} {job : Job} {id : UInt32} {next : σ} :
      jobs[i]? = some job → s.phase i = .waiting → job.Draws →
        source.nextEventId s.source = (.ok id, next) →
          Move source jobs s (.draw i) (s.afterDraw i id next)
  | logFree {i : Nat} {job : Job} {answer : Answer} :
      jobs[i]? = some job → s.phase i = .waiting →
        drawFree (source.kind s.source) job.1 job.2 = some answer →
          Move source jobs s (.log i) (logAnswer answer i s)
  | logDrawn {i : Nat} {job : Job} {id : UInt32} :
      jobs[i]? = some job → s.phase i = .drawn id →
        Move source jobs s (.log i)
          (logAnswer ((Answer.signalWritten id).forMethod job.2.method) i s)
  | respond {i : Nat} {answer : Answer} :
      s.phase i = .logged answer →
        Move source jobs s (.respond i) (s.setPhase i (.responded answer.response))

section Steps
variable {source : IdSource σ} {jobs : List Job} {s t : InFlight σ} {label : Label}

theorem Move.of_step (h : step source jobs s label = some t) : Move source jobs s label t := by
  cases label with
  | draw i =>
    obtain ⟨job, hjob, hdraw⟩ := Option.bind_eq_some_iff.mp h
    unfold InFlight.draw at hdraw
    split at hdraw
    next hphase hfree =>
      split at hdraw
      next id next hid =>
        obtain rfl := Option.some.inj hdraw
        exact .draw hjob hphase ((drawFree_eq_none_iff _ _ _).mp hfree) hid
      next => cases hdraw
    next => cases hdraw
  | log i =>
    obtain ⟨job, hjob, hlog⟩ := Option.bind_eq_some_iff.mp h
    unfold writeLog at hlog
    split at hlog
    next hphase =>
      obtain ⟨answer, hfree, rfl⟩ := Option.map_eq_some_iff.mp hlog
      exact .logFree hjob hphase hfree
    next id hphase =>
      obtain rfl := Option.some.inj hlog
      exact .logDrawn hjob hphase
    next => cases hlog
  | respond i =>
    simp only [InFlight.step, InFlight.respond] at h
    split at h
    next answer hphase =>
      obtain rfl := Option.some.inj h
      exact .respond hphase
    next => cases h

theorem Move.step (h : Move source jobs s label t) : step source jobs s label = some t := by
  cases h with
  | draw hjob hphase hdraws hid =>
    have hfree := (drawFree_eq_none_iff (source.kind s.source) _ _).mpr hdraws
    simp [InFlight.step, InFlight.draw, hjob, hphase, hfree, hid, afterDraw]
  | logFree hjob hphase hfree => simp [InFlight.step, writeLog, hjob, hphase, hfree]
  | logDrawn hjob hphase => simp [InFlight.step, writeLog, hjob, hphase]
  | respond hphase => simp [InFlight.step, InFlight.respond, hphase]

/-- A step leaves every other request as it is. -/
theorem Move.frame (h : Move source jobs s label t) {j : Nat} (hj : j ≠ label.request) :
    t.phase j = s.phase j ∧ t.idsOf j = s.idsOf j ∧ t.eventsOf j = s.eventsOf j := by
  have hrequest : label.request ≠ j := fun h => hj h.symm
  cases h with
  | draw =>
    simp only [Label.request] at hj hrequest
    simp [hj, hrequest]
  | logFree =>
    simp only [Label.request] at hj hrequest
    simp [hj, hrequest]
  | logDrawn =>
    simp only [Label.request] at hj hrequest
    simp [hj, hrequest]
  | respond =>
    simp only [Label.request] at hj
    simp [hj]

/-- A request goes on until it has responded, if the source answers the next draw. -/
theorem exists_step {id : UInt32} {next : σ} (hid : source.nextEventId s.source = (.ok id, next))
    {i : Nat} {job : Job} (hjob : jobs[i]? = some job) :
    (∃ response, s.phase i = .responded response) ∨
      ∃ label t, label.request = i ∧ step source jobs s label = some t := by
  cases hphase : s.phase i with
  | waiting =>
    right
    cases hfree : drawFree (source.kind s.source) job.1 job.2 with
    | none =>
      have hdraws : job.Draws := (drawFree_eq_none_iff _ _ _).mp hfree
      exact ⟨.draw i, _, rfl, (Move.draw hjob hphase hdraws hid).step⟩
    | some answer => exact ⟨.log i, _, rfl, (Move.logFree hjob hphase hfree).step⟩
  | drawn id => exact .inr ⟨.log i, _, rfl, (Move.logDrawn hjob hphase).step⟩
  | logged answer => exact .inr ⟨.respond i, _, rfl, (Move.respond hphase).step⟩
  | responded response => exact .inl ⟨response, rfl⟩

end Steps

/-! ## Schedules -/

/-- Takes the steps of a schedule, each of them if it is possible in its turn. -/
def takeSteps (source : IdSource σ) (jobs : List Job) :
    List Label → InFlight σ → Option (InFlight σ)
  | [], s => some s
  | label :: labels, s => (step source jobs s label).bind (takeSteps source jobs labels)

section Schedules
variable {source : IdSource σ} {jobs : List Job} {initial : σ}

theorem takeSteps_append (first second : List Label) (s : InFlight σ) :
    takeSteps source jobs (first ++ second) s =
      (takeSteps source jobs first s).bind (takeSteps source jobs second) := by
  induction first generalizing s with
  | nil => rfl
  | cons label labels ih =>
    rw [List.cons_append, takeSteps, takeSteps, Option.bind_assoc]
    exact congrArg _ (funext ih)

/-- The reachable states are those that some schedule leads to. -/
theorem reachable_iff_takeSteps (s : InFlight σ) :
    Reachable source jobs initial s ↔
      ∃ schedule, takeSteps source jobs schedule (start initial) = some s := by
  constructor
  · intro h
    induction h with
    | start => exact ⟨[], rfl⟩
    | step label _ hstep ih =>
      obtain ⟨schedule, hschedule⟩ := ih
      refine ⟨schedule ++ [label], ?_⟩
      simp [takeSteps_append, hschedule, takeSteps, hstep]
  · rintro ⟨schedule, hschedule⟩
    -- the last step is taken off, as it was put on
    induction schedule using List.reverseRecOn generalizing s with
    | nil =>
      obtain rfl := Option.some.inj hschedule
      exact .start
    | append_singleton labels label ih =>
      rw [takeSteps_append] at hschedule
      obtain ⟨before, hbefore, hlast⟩ := Option.bind_eq_some_iff.mp hschedule
      have hstep : step source jobs before label = some s := by
        simpa [takeSteps] using hlast
      exact .step label (ih before hbefore) hstep

/-- A schedule makes as many draws as it has steps that draw. -/
theorem length_draws_takeSteps {schedule : List Label} {s t : InFlight σ}
    (h : takeSteps source jobs schedule s = some t) :
    t.draws.length = s.draws.length + schedule.countP Label.isDraw := by
  induction schedule generalizing s with
  | nil =>
    obtain rfl := Option.some.inj h
    rfl
  | cons label labels ih =>
    obtain ⟨next, hstep, hrest⟩ := Option.bind_eq_some_iff.mp h
    have hnext : next.draws.length =
        s.draws.length + if Label.isDraw label = true then 1 else 0 := by
      cases Move.of_step hstep with
      | draw => simp [afterDraw, Label.isDraw]
      | logFree => simp [logAnswer, setPhase, Label.isDraw]
      | logDrawn => simp [logAnswer, setPhase, Label.isDraw]
      | respond => simp [setPhase, Label.isDraw]
    rw [ih hrest, hnext, List.countP_cons]
    omega

end Schedules

/-! ## The invariant -/

/-- The answer that a request comes to, with the event ids that it draws for it. -/
inductive ComesTo (source : IdSource σ) (job : Job) : List UInt32 → Answer → Prop
  | written {id : UInt32} :
      job.Draws → ComesTo source job [id] ((Answer.signalWritten id).forMethod job.2.method)
  | free {state : σ} {answer : Answer} :
      drawFree (source.kind state) job.1 job.2 = some answer → ComesTo source job [] answer

/-- How far a request has come, with the event ids that it drew and the events that it logged. -/
inductive Progress (source : IdSource σ) (job : Job) : Phase → List UInt32 → List Event → Prop
  | waiting : Progress source job .waiting [] []
  | drawn {id : UInt32} : job.Draws → Progress source job (.drawn id) [id] []
  | logged {ids : List UInt32} {answer : Answer} :
      ComesTo source job ids answer → Progress source job (.logged answer) ids answer.events
  | responded {ids : List UInt32} {answer : Answer} :
      ComesTo source job ids answer →
        Progress source job (.responded answer.response) ids answer.events

section Progress
variable {source : IdSource σ} {job : Job} {ids : List UInt32} {events : List Event}

/-! Each phase tells which draws and which events belong to it. -/

theorem Progress.of_waiting (h : Progress source job .waiting ids events) :
    ids = [] ∧ events = [] := by
  cases h
  exact ⟨rfl, rfl⟩

theorem Progress.of_drawn {id : UInt32} (h : Progress source job (.drawn id) ids events) :
    job.Draws ∧ ids = [id] ∧ events = [] := by
  cases h with
  | drawn hdraws => exact ⟨hdraws, rfl, rfl⟩

theorem Progress.of_logged {answer : Answer} (h : Progress source job (.logged answer) ids events) :
    ComesTo source job ids answer ∧ events = answer.events := by
  cases h with
  | logged hcomes => exact ⟨hcomes, rfl⟩

theorem Progress.of_responded {response : Response}
    (h : Progress source job (.responded response) ids events) :
    ∃ answer, ComesTo source job ids answer ∧ events = answer.events ∧
      response = answer.response := by
  cases h with
  | responded hcomes => exact ⟨_, hcomes, rfl, rfl⟩

/-- A request with an event id writes a signal, and it has no other. -/
theorem Progress.draws_of_mem {phase : Phase} {id : UInt32}
    (h : Progress source job phase ids events) (hid : id ∈ ids) :
    job.Draws ∧ ∃ other, ids = [other] := by
  cases h with
  | waiting => cases hid
  | drawn hdraws => exact ⟨hdraws, _, rfl⟩
  | logged hcomes =>
    cases hcomes with
    | written hdraws => exact ⟨hdraws, _, rfl⟩
    | free => cases hid
  | responded hcomes =>
    cases hcomes with
    | written hdraws => exact ⟨hdraws, _, rfl⟩
    | free => cases hid

end Progress

/-- What holds however the steps are ordered. -/
structure Inv (source : IdSource σ) (jobs : List Job) (initial : σ) (s : InFlight σ) : Prop where
  /-- The draws are the beginning of the sequence of the source. -/
  sequence : source.nextEventIds s.draws.length initial = (.ok (s.draws.map Prod.snd), s.source)
  /-- Every request has come as far as its draws and its events say. -/
  progress : ∀ i job, jobs[i]? = some job →
    Progress source job (s.phase i) (s.idsOf i) (s.eventsOf i)
  /-- Nothing else takes a step. -/
  idle : ∀ i, jobs[i]? = none → s.phase i = .waiting ∧ s.idsOf i = [] ∧ s.eventsOf i = []

section Invariant
variable {source : IdSource σ} {jobs : List Job} {initial : σ} {s t : InFlight σ}

theorem inv_start : Inv source jobs initial (start initial) where
  sequence := rfl
  progress := fun _ _ _ => .waiting
  idle := fun _ _ => ⟨rfl, rfl, rfl⟩

/-- A step that belongs to a request keeps the invariant if it keeps it for this request. -/
theorem Inv.of_move {label : Label} (hs : Inv source jobs initial s)
    (h : Move source jobs s label t) {job : Job} (hjob : jobs[label.request]? = some job)
    (hsequence : source.nextEventIds t.draws.length initial =
      (.ok (t.draws.map Prod.snd), t.source))
    (hprogress : Progress source job (t.phase label.request) (t.idsOf label.request)
      (t.eventsOf label.request)) :
    Inv source jobs initial t where
  sequence := hsequence
  progress := by
    intro j other hother
    by_cases hj : j = label.request
    · subst hj
      obtain rfl : job = other := Option.some.inj (hjob.symm.trans hother)
      exact hprogress
    · obtain ⟨hphase, hids, hevents⟩ := h.frame hj
      rw [hphase, hids, hevents]
      exact hs.progress j other hother
  idle := by
    intro j hnone
    have hj : j ≠ label.request := by
      rintro rfl
      rw [hjob] at hnone
      cases hnone
    obtain ⟨hphase, hids, hevents⟩ := h.frame hj
    rw [hphase, hids, hevents]
    exact hs.idle j hnone

/-- Every step keeps the invariant. -/
theorem Inv.move {label : Label} (hs : Inv source jobs initial s)
    (h : Move source jobs s label t) : Inv source jobs initial t := by
  have hmove := h
  cases h with
  | @draw i job id next hjob hphase hdraws hid =>
    have hprogress := hs.progress i job hjob
    rw [hphase] at hprogress
    obtain ⟨hids, hevents⟩ := hprogress.of_waiting
    refine hs.of_move hmove hjob ?_ ?_
    · simpa [afterDraw] using source.nextEventIds_succ hs.sequence hid
    · simpa [Label.request, hids, hevents] using Progress.drawn hdraws
  | @logFree i job answer hjob hphase hfree =>
    have hprogress := hs.progress i job hjob
    rw [hphase] at hprogress
    obtain ⟨hids, hevents⟩ := hprogress.of_waiting
    refine hs.of_move hmove hjob hs.sequence ?_
    simpa [Label.request, hids, hevents] using Progress.logged (.free hfree)
  | @logDrawn i job id hjob hphase =>
    have hprogress := hs.progress i job hjob
    rw [hphase] at hprogress
    obtain ⟨hdraws, hids, hevents⟩ := hprogress.of_drawn
    refine hs.of_move hmove hjob hs.sequence ?_
    simpa [Label.request, hids, hevents] using Progress.logged (.written hdraws)
  | @respond i answer hphase =>
    -- only a request can have logged an answer
    cases hjob : jobs[i]? with
    | none =>
      have hidle := (hs.idle i hjob).1
      rw [hphase] at hidle
      cases hidle
    | some job =>
      have hprogress := hs.progress i job hjob
      rw [hphase] at hprogress
      obtain ⟨hcomes, hevents⟩ := hprogress.of_logged
      refine hs.of_move hmove hjob hs.sequence ?_
      simpa [Label.request, hevents] using Progress.responded hcomes

/-- The invariant holds in every reachable state. -/
theorem Reachable.inv (h : Reachable source jobs initial s) : Inv source jobs initial s := by
  induction h with
  | start => exact inv_start
  | step label _ hstep ih => exact ih.move (.of_step hstep)

/-! ## Who drew what -/

/-- A drawn id belongs to a request that writes a signal, and it is the only one of its request. -/
theorem Inv.owner (hs : Inv source jobs initial s) {i : Nat} {id : UInt32}
    (hdraw : (i, id) ∈ s.draws) :
    ∃ job, jobs[i]? = some job ∧ job.Draws ∧ s.idsOf i = [id] := by
  have hmem : id ∈ s.idsOf i := mem_idsOf.mpr hdraw
  cases hjob : jobs[i]? with
  | none =>
    rw [(hs.idle i hjob).2.1] at hmem
    cases hmem
  | some job =>
    obtain ⟨hdraws, other, hother⟩ := (hs.progress i job hjob).draws_of_mem hmem
    rw [hother, List.mem_singleton] at hmem
    exact ⟨job, rfl, hdraws, by rw [hother, hmem]⟩

/-- No request draws twice. -/
theorem Inv.nodup_draws (hs : Inv source jobs initial s) : (s.draws.map Prod.fst).Nodup := by
  rw [List.nodup_iff_count_le_one]
  intro i
  rw [count_draws]
  cases hids : s.idsOf i with
  | nil => simp
  | cons id ids =>
    obtain ⟨-, -, -, hone⟩ := hs.owner (mem_idsOf.mp (hids ▸ List.mem_cons_self))
    rw [← hids, hone]
    exact Nat.le_refl 1

end Invariant

end InFlight

end SignalStub
