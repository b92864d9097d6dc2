import SignalStub.Proofs.Outcome
import SignalStub.Proofs.Stub.Listening
import SignalStub.Proofs.Stub.Noninterference

/-! # What a service relies on in its server

    A server hands some messages to the service and answers the others by itself. Which messages it
    hands over is its own affair, and so is what it tells the clients of the others. A message that
    is handed over becomes one request with the method and the path that the client wrote; its
    headers and its body may have changed on the way. What the service makes of the request goes back
    to the client, with its status and its body, and only then does the server turn to the next
    client.

    From this alone it follows what a whole session does, by induction over its messages. The service
    is called in the order of the messages, so the source goes from state to state as it does when
    the requests are handed over in process; and since the service sees no more of a request than its
    method and its path, it cannot tell the two runs apart.
-/

namespace SignalStub

open Http Log Randomness Route

/-! ## Servers -/

/-- A message to a path, whose response has a body. -/
structure Draft.IsOrdinary (draft : Draft) : Prop where
  origin : draft.uri.toList.head? = some '/'
  method : draft.method ≠ "HEAD" ∧ draft.method ≠ "CONNECT"

/-- What the client of a message sees of what the service made of it. -/
inductive Shows : Except DrawFault Response → Exchange → Prop
  | answered {response seen : Response} : seen.status = response.status →
      seen.body = response.body → Shows (.ok response) (.answered seen)
  | unanswered (fault : DrawFault) : Shows (.error fault) (.unanswered fault)

/-- The sessions in which a server keeps to the messages, one by one, and ends with `result` when it
    is told to stop. -/
inductive Session.Serves (takes : Draft → Bool) (result : Except String Unit) :
    List Draft → Session → Prop
  /-- Behind the last message the server waits until it is told to stop. -/
  | stops : Serves takes result [] (.await (.finish result))
  /-- A message is answered by the server itself. -/
  | refused {draft : Draft} {drafts : List Draft} {seen : Exchange} {rest : Session} :
      takes draft = false → Serves takes result drafts rest →
        Serves takes result (draft :: drafts) (.reply seen rest)
  /-- A message is handed over, and its client sees what the service makes of it. -/
  | handed {draft : Draft} {drafts : List Draft} {request : Request}
      {seen : Except DrawFault Response → Exchange} {rest : Except DrawFault Response → Session} :
      takes draft = true → (∀ made, Makes draft made → Alike request made) →
        (∀ outcome, Shows outcome (seen outcome)) →
          (∀ outcome, Serves takes result drafts (rest outcome)) →
            Serves takes result (draft :: drafts)
              (.call request fun outcome => .reply (seen outcome) (rest outcome))

/-- A server keeps to its messages, if they are ordinary, and ends with `result` when it is told to
    stop. -/
def HttpServer.IsFaithful (server : HttpServer) (result : Except String Unit) : Prop :=
  ∀ drafts : List Draft, (∀ draft ∈ drafts, draft.IsOrdinary) →
    Session.Serves server.takes result drafts (server.session drafts)

/-! ## Messages that are handed over -/

/-- Of what belongs to messages one by one, the part for the messages that are handed over. -/
def taken {α : Type} (takes : Draft → Bool) (drafts : List Draft) (xs : List α) : List α :=
  ((drafts.zip xs).filter fun pair => takes pair.1).map Prod.snd

section Taken
variable {α : Type} {takes : Draft → Bool} {draft : Draft} (drafts : List Draft) (x : α)
  (xs : List α)

theorem taken_cons_of_refused (h : takes draft = false) :
    taken takes (draft :: drafts) (x :: xs) = taken takes drafts xs := by
  unfold taken
  rw [List.zip_cons_cons, List.filter_cons_of_neg (by simp [h])]

theorem taken_cons_of_handed (h : takes draft = true) :
    taken takes (draft :: drafts) (x :: xs) = x :: taken takes drafts xs := by
  unfold taken
  rw [List.zip_cons_cons, List.filter_cons_of_pos (by simp [h]), List.map_cons]

/-- If every message is handed over, nothing is left out. -/
theorem taken_eq_self {drafts : List Draft} {xs : List α} (h : ∀ draft ∈ drafts, takes draft = true)
    (hlength : xs.length = drafts.length) : taken takes drafts xs = xs := by
  have hall : ((drafts.zip xs).filter fun pair => takes pair.1) = drafts.zip xs :=
    List.filter_eq_self.mpr fun pair hpair => h pair.1 (List.of_mem_zip hpair).1
  unfold taken
  rw [hall, List.map_snd_zip (le_of_eq hlength)]

end Taken

/-! ## Sessions -/

/-- The events that are logged for the outcome of a request. -/
def eventsOfOutcome : Except DrawFault Answer → List Event
  | .ok reply => reply.events
  | .error _ => []

/-- A client sees the outcome that its request has in process. -/
def ShowsOutcome (outcome : Except DrawFault Answer) (seen : Exchange) : Prop :=
  Shows (outcome.map Answer.response) seen

section Sessions
variable (around : Surroundings) (router : Router Endpoint) (signal : ShutdownSignal)

/-- One call of the service leaves the source and the log where the answer in process leaves them. -/
theorem goOn_handed (request : Request) (seen : Except DrawFault Response → Exchange)
    (rest : Except DrawFault Response → Session) (generator : Generator) (journal : Journal) :
    ∃ outcome, outcome = (answer Generator.source router request generator).1.map Answer.response ∧
      around.goOn router signal (.call request fun outcome => .reply (seen outcome) (rest outcome))
          generator journal =
        around.goOn router signal (rest outcome)
          (answer Generator.source router request generator).2
          ⟨journal.exchanges ++ [seen outcome], journal.events ++
            eventsOfOutcome (answer Generator.source router request generator).1⟩ := by
  refine ⟨_, rfl, ?_⟩
  rcases h : answer Generator.source router request generator with ⟨fault | reply, left⟩
  · rw [around.goOn_call_of_error router signal generator journal h, around.goOn_reply]
    simp [eventsOfOutcome, Except.map]
  · rw [around.goOn_call_of_ok router signal generator journal h, around.goOn_reply]
    rfl

/-- A session does with its messages what the service does in process with the requests that are
    handed over, and then waits for its end. -/
theorem Session.Serves.goOn_eq {takes : Draft → Bool} {result : Except String Unit}
    {drafts : List Draft} {session : Session} (h : Serves takes result drafts session)
    {requests : List Request} (hmake : List.Forall₂ Makes drafts requests) (generator : Generator)
    (journal : Journal) :
    ∃ seen : List Exchange, seen.length = drafts.length ∧
      List.Forall₂ ShowsOutcome
        (answerAll Generator.source (sentTo router (taken takes drafts requests)) generator).1
        (taken takes drafts seen) ∧
      around.goOn router signal session generator journal =
        around.goOn router signal (.await (.finish result))
          (answerAll Generator.source (sentTo router (taken takes drafts requests)) generator).2
          ⟨journal.exchanges ++ seen, journal.events ++
            (answerAll Generator.source (sentTo router (taken takes drafts requests))
              generator).1.flatMap eventsOfOutcome⟩ := by
  induction h generalizing requests generator journal with
  | stops =>
    cases hmake
    refine ⟨[], rfl, .nil, ?_⟩
    simp [taken, sentTo, answerAll]
  | @refused draft drafts seen rest hrefused _ ih =>
    -- the server answers by itself, so source and log stay behind for the next message
    obtain _ | ⟨-, hmake⟩ := hmake
    obtain ⟨others, hlength, hshows, hrest⟩ := ih hmake generator
      { journal with exchanges := journal.exchanges ++ [seen] }
    refine ⟨seen :: others, congrArg Nat.succ hlength, ?_, ?_⟩
    · rwa [taken_cons_of_refused _ _ _ hrefused, taken_cons_of_refused _ _ _ hrefused]
    · rw [taken_cons_of_refused _ _ _ hrefused, around.goOn_reply, hrest, List.append_assoc,
        List.singleton_append]
  | @handed draft drafts request seen rest hhanded halike hshown _ ih =>
    cases hmake with
    | @cons _ made _ requests hfirst hmake =>
    obtain ⟨outcome, houtcome, hcall⟩ := goOn_handed around router signal request seen rest generator
      journal
    -- the service cannot tell the request from the one that is made in process
    rw [(halike made hfirst).answer_eq] at houtcome hcall
    obtain ⟨others, hlength, hshows, hrest⟩ := ih outcome hmake
      (answer Generator.source router made generator).2
      ⟨journal.exchanges ++ [seen outcome], journal.events ++
        eventsOfOutcome (answer Generator.source router made generator).1⟩
    refine ⟨seen outcome :: others, congrArg Nat.succ hlength, ?_, ?_⟩
    · rw [taken_cons_of_handed _ _ _ hhanded, taken_cons_of_handed _ _ _ hhanded]
      refine .cons ?_ hshows
      exact houtcome ▸ hshown _
    · rw [taken_cons_of_handed _ _ _ hhanded, hcall, hrest]
      simp only [sentTo, List.map_cons, answerAll, List.flatMap_cons, List.append_assoc,
        List.singleton_append]

end Sessions

/-! ## The server of the program -/

/-- The text of a method decides: no other text is read as HEAD. -/
theorem Makes.method_ne_head {draft : Draft} {request : Request} (h : Makes draft request)
    (hmethod : draft.method ≠ "HEAD") : request.method ≠ .head := by
  intro hhead
  have hname := Method.name_of_ofName? (Request.of_make h).1
  rw [hhead] at hname
  exact hmethod hname.symm

/-- With nothing in between, a client sees the response that the service has made. -/
theorem exchange_of_answer {σ : Type} (source : IdSource σ) (router : Router Endpoint)
    {draft : Draft} {request : Request} (hmake : Makes draft request)
    (hmethod : draft.method ≠ "HEAD") {reply : Answer} {state state' : σ}
    (h : answer source router request state = (.ok reply, state')) :
    exchange source router draft state = (.answered reply.response, reply.events, state') := by
  have hsent : sent request.method reply.response = reply.response :=
    if_neg (hmake.method_ne_head hmethod)
  unfold exchange
  rw [show Request.make draft.method draft.uri draft.headers draft.body = .ok request from hmake]
  dsimp only
  rw [h]
  dsimp only
  rw [hsent]

namespace HttpServer

theorem makes_of_receive {draft : Draft} {request : Request} (h : receive draft = .ok request) :
    Makes draft request := by
  unfold receive at h
  split at h
  · cases h
  split at h
  · cases h
  · exact mapError_eq_ok_iff.mp h

/-- A response that may have a body is shown as it is. -/
theorem shows_shown {method : Method} (h : method ≠ .head) (outcome : Except DrawFault Response) :
    Shows outcome (shown method outcome) := by
  cases outcome with
  | error fault => exact .unanswered fault
  | ok response =>
    have hsent : sent method response = response := if_neg h
    refine .answered ?_ ?_ <;> rw [hsent]

/-- The program's own server keeps to its messages. -/
theorem isFaithful_plain : plain.IsFaithful (.ok ()) := by
  intro drafts hordinary
  induction drafts with
  | nil => exact .stops
  | cons draft drafts ih =>
    have hrest := ih fun d hd => hordinary d (List.mem_cons_of_mem _ hd)
    -- the session of a list is the session of its first message in front of the rest
    show Session.Serves _ _ _ (message draft (plain.session drafts))
    unfold message
    cases hreceive : receive draft with
    | error exchange =>
      refine .refused ?_ hrest
      show (receive draft).isOk = false
      rw [hreceive]
      rfl
    | ok request =>
      have hmake := makes_of_receive hreceive
      refine .handed ?_ ?_ (shows_shown ?_) fun _ => hrest
      · show (receive draft).isOk = true
        rw [hreceive]
        rfl
      · intro made hmade
        obtain rfl := Except.ok.inj (hmake.symm.trans hmade)
        exact ⟨rfl, rfl⟩
      · exact hmake.method_ne_head (hordinary draft List.mem_cons_self).method.1

/-- So does the server that no client reaches. -/
theorem isFaithful_unreached : unreached.IsFaithful (.ok ()) := by
  intro drafts hordinary
  induction drafts with
  | nil => exact .stops
  | cons draft drafts ih =>
    exact .refused rfl (ih fun d hd => hordinary d (List.mem_cons_of_mem _ hd))

section Messages
variable (around : Surroundings) (router : Router Endpoint) (signal : ShutdownSignal)
  (generator : Generator) (journal : Journal)

end Messages

end HttpServer

/-! ## Machines -/

namespace Machine
variable (machine : Machine)

/-- On every machine the program has a server that keeps to its messages. -/
theorem isFaithful_server : machine.surroundings.server.IsFaithful (.ok ()) := by
  unfold surroundings
  split
  · exact HttpServer.isFaithful_plain
  · exact HttpServer.isFaithful_unreached

end Machine

end SignalStub
