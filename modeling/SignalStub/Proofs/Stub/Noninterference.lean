import Mathlib.Data.List.Forall2
import SignalStub.Proofs.Http.Target
import SignalStub.Proofs.Stub.Availability

/-! # What an answer depends on

    Two runs of a service are compared. Their requests have the same methods and the same paths, one
    by one, and differ in everything else: in headers and bodies, in queries and fragments, and in
    whether a path is written alone or behind a scheme and an authority. No client can tell the two
    runs apart, and neither can the source of the event ids or the log.

    The comparison begins at the texts that requests are made of. What two targets have in common is
    the path that stands in them; once both are read, only the method and that path reach an answer.
    The step compares one request with another in any one state, and leaves one state behind; the
    runs follow by induction over both lists at once.
-/

namespace SignalStub

open Http Log Randomness Route

/-! ## Requests -/

/-- Two requests with one method and one path. -/
structure Alike (first second : Request) : Prop where
  method : first.method = second.method
  path : first.uri.path = second.uri.path

section Answers
variable {σ : Type} (source : IdSource σ)

/-- Alike requests are answered alike, in every state. -/
theorem Alike.answer_eq {first second : Request} (h : Alike first second)
    (router : Router Endpoint) (state : σ) :
    answer source router first state = answer source router second state := by
  obtain ⟨hmethod, hpath⟩ := h
  unfold answer drawFree
  rw [hmethod, hpath]

/-- Alike requests in a row are answered alike, each of them. -/
theorem answerAll_eq_of_alike (router : Router Endpoint) {requests others : List Request}
    (h : List.Forall₂ Alike requests others) (state : σ) :
    answerAll source (sentTo router requests) state =
      answerAll source (sentTo router others) state := by
  induction h generalizing state with
  | nil => rfl
  | @cons first second requests others hfirst _ ih =>
    have hstep := hfirst.answer_eq source router state
    simp only [sentTo, List.map_cons, answerAll, hstep]
    -- both runs go on in the state that either first request leaves
    have hrest := ih (answer source router second state).2
    simp only [sentTo] at hrest
    rw [hrest]

end Answers

/-! ## Texts of requests -/

/-- The request that is made of a draft. -/
def Makes (draft : Draft) (request : Request) : Prop :=
  Request.make draft.method draft.uri draft.headers draft.body = .ok request

/-- Two drafts with one method and one path in their targets. -/
structure AlikeDrafts (first second : Draft) : Prop where
  method : first.method = second.method
  path : targetPath first.uri = targetPath second.uri

/-- Alike drafts make alike requests. -/
theorem AlikeDrafts.alike {first second : Draft} (h : AlikeDrafts first second)
    {request other : Request} (hfirst : Makes first request) (hsecond : Makes second other) :
    Alike request other := by
  obtain ⟨hmethod, huri⟩ := Request.of_make hfirst
  obtain ⟨hmethod', huri'⟩ := Request.of_make hsecond
  constructor
  · rw [h.method, hmethod'] at hmethod
    exact (Option.some.inj hmethod).symm
  · rw [Uri.path_eq_targetPath huri, Uri.path_eq_targetPath huri', h.path]

theorem forall₂_alike_of_drafts {drafts others : List Draft}
    (h : List.Forall₂ AlikeDrafts drafts others) {requests otherRequests : List Request}
    (hmake : List.Forall₂ Makes drafts requests)
    (hmake' : List.Forall₂ Makes others otherRequests) :
    List.Forall₂ Alike requests otherRequests := by
  induction h generalizing requests otherRequests with
  | nil =>
    cases hmake
    cases hmake'
    exact .nil
  | cons hfirst _ ih =>
    obtain _ | ⟨hrequest, hrequests⟩ := hmake
    obtain _ | ⟨hother, hothers⟩ := hmake'
    exact .cons (hfirst.alike hrequest hother) (ih hrequests hothers)

/-- The targets that a path stands in: a query and a fragment may be behind it, a scheme and an
    authority in front. -/
inductive StandsIn (path : String) : String → Prop
  | alone (tail : String) : rawPath tail = "" → StandsIn path (path ++ tail)
  | address (scheme authority tail : String) :
      (∀ c ∈ scheme.toList, Uri.isSchemeChar c = true) →
      (∀ c ∈ authority.toList, endsAuthority c = false) → rawPath tail = "" →
        StandsIn path (scheme ++ "://" ++ authority ++ (path ++ tail))

theorem StandsIn.targetPath_eq {path target : String} (hslash : path.toList.head? = some '/')
    (hraw : rawPath path = path) (h : StandsIn path target) : targetPath target = path := by
  have hhead : ∀ tail : String, (path ++ tail).toList.head? = some '/' := by
    intro tail
    rw [String.toList_append, List.head?_append, hslash]
    rfl
  cases h with
  | alone tail htail => rw [targetPath, if_pos (hhead tail), rawPath_append hraw htail]
  | address scheme authority tail hscheme hauthority htail =>
    rw [targetPath_of_address hscheme hauthority (hhead tail), rawPath_append hraw htail]

/-! ## Two runs -/

/-- The service sees the method and the path of a request, and nothing else of it. -/
structure SeesMethodAndPathAlone {σ : Type} (source : IdSource σ) (router : Router Endpoint) :
    Prop where
  /-- Two requests with one method and one path have one answer, with the same response and the same
      events, and leave one state of the source. -/
  requests : ∀ first second : Request, Alike first second → ∀ state : σ,
    answer source router first state = answer source router second state
  /-- So have requests that are made of any texts with one method and one path. -/
  drafts : ∀ (first second : Draft) (request other : Request), AlikeDrafts first second →
    Makes first request → Makes second other → ∀ state : σ,
      answer source router request state = answer source router other state
  /-- The path may stand in any two targets, under any headers and before any bodies. -/
  decorated : ∀ (method path target otherTarget body otherBody : String)
    (headers otherHeaders : Headers) (request other : Request),
    path.toList.head? = some '/' → rawPath path = path →
    StandsIn path target → StandsIn path otherTarget →
    Request.make method target headers body = .ok request →
    Request.make method otherTarget otherHeaders otherBody = .ok other → ∀ state : σ,
      answer source router request state = answer source router other state
  /-- Two sequences of requests that agree so, one by one, are answered alike after every prefix. -/
  runs : ∀ requests others : List Request, List.Forall₂ Alike requests others →
    ∀ (k : Nat) (state : σ), answerAll source (sentTo router (requests.take k)) state =
      answerAll source (sentTo router (others.take k)) state
  /-- So are two sequences that are made of texts which agree, one by one. -/
  draftRuns : ∀ (drafts others : List Draft) (requests otherRequests : List Request),
    List.Forall₂ AlikeDrafts drafts others → List.Forall₂ Makes drafts requests →
    List.Forall₂ Makes others otherRequests →
    ∀ (k : Nat) (state : σ), answerAll source (sentTo router (requests.take k)) state =
      answerAll source (sentTo router (otherRequests.take k)) state

theorem seesMethodAndPathAlone {σ : Type} (source : IdSource σ) (router : Router Endpoint) :
    SeesMethodAndPathAlone source router where
  requests := fun _ _ h state => h.answer_eq source router state
  drafts := fun _ _ _ _ h hfirst hsecond state =>
    (h.alike hfirst hsecond).answer_eq source router state
  decorated := by
    intro method path target otherTarget body otherBody headers otherHeaders request other hslash
      hraw htarget hother hmake hmake' state
    have hpath : targetPath target = targetPath otherTarget :=
      (htarget.targetPath_eq hslash hraw).trans (hother.targetPath_eq hslash hraw).symm
    have hdrafts : AlikeDrafts ⟨method, target, headers, body⟩
        ⟨method, otherTarget, otherHeaders, otherBody⟩ := ⟨rfl, hpath⟩
    exact (hdrafts.alike hmake hmake').answer_eq source router state
  runs := by
    intro requests others h k state
    exact answerAll_eq_of_alike source router (List.forall₂_take k h) state
  draftRuns := by
    intro drafts others requests otherRequests h hmake hmake' k state
    have halike := forall₂_alike_of_drafts h hmake hmake'
    exact answerAll_eq_of_alike source router (List.forall₂_take k halike) state

/-- A service with an accepted write path answers by method and path alone. -/
theorem accepted_writePath_sees_method_and_path {σ : Type} (source : IdSource σ)
    {writePath : String} (haccepted : WritePath.check writePath = .ok ()) :
    ∃ router, serviceRoutes writePath = .ok router ∧ SeesMethodAndPathAlone source router :=
  ⟨serviceTable writePath, serviceRoutes_of_check haccepted, seesMethodAndPathAlone source _⟩

/-- A write path next to a probe, written alone and in an address. The two requests differ, and no
    state of a generator tells them apart. -/
theorem livez_sees_method_and_path :
    WritePath.check "/livez" = .ok () ∧
      (∃ router, serviceRoutes "/livez" = .ok router ∧
        SeesMethodAndPathAlone Generator.source router) ∧
      ∃ request other : Request, request ≠ other ∧ Alike request other ∧
        Request.make "POST" "/livez?id=7" [] "" = .ok request ∧
        Request.make "POST" "HTTP://localhost:8080/livez#top" [("accept", "text/plain")] "text" =
          .ok other := by
  refine ⟨by decide, accepted_writePath_sees_method_and_path Generator.source (by decide), ?_⟩
  refine ⟨⟨.post, ⟨none, none, "/livez", some "id=7"⟩, [], ""⟩,
    ⟨.post, ⟨some "http", some "localhost:8080", "/livez", none⟩, [("accept", "text/plain")],
      "text"⟩, by decide, ⟨rfl, rfl⟩, ?_, ?_⟩
  · rfl
  · rfl

end SignalStub
