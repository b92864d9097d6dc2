import SignalStub.Proofs.Http.Form
import SignalStub.Proofs.Stub.Session
import SignalStub.Proofs.Text.Document

/-! # Paths that are not found

    A path outside the table of routes is answered with a document that names it, and an event that
    names it too. The path is the one that was asked for, character for character, whatever form the
    target has and whatever has to be escaped to write it.

    The document is read back, so the body determines the path: two paths never have one body. In
    the other direction the path determines the answer: a scheme, an authority, a query and a
    fragment leave no trace in it.
-/

namespace SignalStub

open Http Log Randomness Route

/-! ## The answer to a path -/

/-- A path that is neither the write path nor the path of a probe. -/
def IsUnrouted (writePath path : String) : Prop :=
  path ≠ writePath ∧ path ≠ livezPath ∧ path ≠ healthzPath

/-- A response and its events say that a path is not found, and which. -/
structure NamesPath (path : String) (response : Response) (events : List Event) : Prop where
  status : response.status = 404
  /-- The body is an object with these two members and no other. -/
  document : Document.read? response.body =
    some ⟨[("error", .text "not found"), ("path", .text path)]⟩
  /-- Nothing in the body begins a query or a fragment. -/
  noMark : '?' ∉ response.body.toList ∧ '#' ∉ response.body.toList
  /-- One event is logged, and its only field is the path. -/
  event : ∃ event, events = [event] ∧ event.message = "no route" ∧
    event.fields = [("path", .shown path)]

/-- One body cannot name two paths. -/
theorem NamesPath.path_unique {path other : String} {response response' : Response}
    {events events' : List Event} (h : NamesPath path response events)
    (h' : NamesPath other response' events') (hbody : response.body = response'.body) :
    path = other := by
  have hread := h.document
  rw [hbody, h'.document] at hread
  simpa using hread.symm

/-- A mark of a query or of a fragment is in the body only if it is in the path. -/
theorem notMem_notFound {path : String} {mark : Char} (hpath : mark ∉ path.toList)
    (hmark : ¬ Document.IsMark mark)
    (hwords : mark ∉ "error".toList ∧ mark ∉ "not found".toList ∧ mark ∉ "path".toList) :
    mark ∉ (Answer.notFound path).response.body.toList := by
  intro hmem
  rcases Document.mem_render _ mark hmem with ⟨member, hmember, hchars⟩ | hismark
  · rw [List.mem_cons, List.mem_singleton] at hmember
    rcases hmember with rfl | rfl
    · exact hchars.elim hwords.1 hwords.2.1
    · exact hchars.elim hwords.2.2 hpath
  · exact hmark hismark

theorem namesPath_notFound {path : String} (h : '?' ∉ path.toList ∧ '#' ∉ path.toList) :
    NamesPath path (Answer.notFound path).response (Answer.notFound path).events where
  status := rfl
  document := Document.read?_render _
  noMark := ⟨notMem_notFound h.1 (by decide) (by decide),
    notMem_notFound h.2 (by decide) (by decide)⟩
  event := ⟨_, rfl, rfl, rfl⟩

/-! ## Requests that no route serves -/

/-- A request that can be made asks for a path that no route serves, and may have a body in its
    response. -/
structure AsksInVain (writePath : String) (draft : Draft) (path : String) : Prop where
  made : ∃ request, Makes draft request
  asked : PathOf path draft.uri
  unrouted : IsUnrouted writePath path
  method : draft.method ≠ "HEAD"

/-- The path of a request is the path of its target. -/
theorem pathOf_iff_of_makes {draft : Draft} {request : Request} (h : Makes draft request)
    (path : String) : PathOf path draft.uri ↔ path = request.uri.path :=
  pathOf_iff (Request.of_make h).2 path

section Answers
variable {σ : Type} (source : IdSource σ) {writePath : String}

theorem answer_of_unrouted {request : Request} (h : IsUnrouted writePath request.uri.path)
    (state : σ) : answer source (serviceTable writePath) request state =
      (.ok (.notFound request.uri.path), state) := by
  obtain ⟨hwrite, hlivez, hhealthz⟩ := h
  have hdispatch := dispatch_other hwrite hlivez hhealthz request.method
  unfold answer drawFree
  rw [hdispatch]

theorem exchange_of_asksInVain {draft : Draft} {path : String}
    (h : AsksInVain writePath draft path) (state : σ) :
    exchange source (serviceTable writePath) draft state =
      (.answered (Answer.notFound path).response, (Answer.notFound path).events, state) := by
  obtain ⟨request, hmake⟩ := h.made
  have hpath : path = request.uri.path := (pathOf_iff_of_makes hmake path).mp h.asked
  have hunrouted := h.unrouted
  rw [hpath] at hunrouted ⊢
  exact exchange_of_answer source _ hmake h.method (answer_of_unrouted source hunrouted state)

end Answers

/-! ## Services -/

/-- A service names the paths that it does not serve. -/
structure NamesUnroutedPaths {σ : Type} (source : IdSource σ) (writePath : String)
    (router : Router Endpoint) : Prop where
  /-- The target of a request has one form, and with it one path. -/
  onePath : ∀ {draft : Draft} {request : Request}, Makes draft request →
    ∀ path : String, PathOf path draft.uri ↔ path = request.uri.path
  /-- In process the answer to every method names the path, and the source is left as it was. -/
  answered : ∀ {draft : Draft} {request : Request} {path : String}, Makes draft request →
    PathOf path draft.uri → IsUnrouted writePath path → ∀ state : σ,
      ∃ reply, answer source router request state = (.ok reply, state) ∧
        NamesPath path reply.response reply.events
  /-- With nothing in between, the response that a client sees names it too. -/
  served : ∀ {draft : Draft} {path : String}, AsksInVain writePath draft path → ∀ state : σ,
    ∃ response events, exchange source router draft state = (.answered response, events, state) ∧
      NamesPath path response events
  /-- Requests for different paths have different bodies in their responses. -/
  apart : ∀ {first second : Draft} {path other : String}, AsksInVain writePath first path →
    AsksInVain writePath second other → path ≠ other →
      ∀ {state state' : σ} {response response' : Response},
        (exchange source router first state).1 = .answered response →
          (exchange source router second state').1 = .answered response' →
            response.body ≠ response'.body
  /-- Requests for one path have one response and the same events, whatever their queries and
      fragments are, their schemes and authorities, their methods, their headers and bodies. -/
  alike : ∀ {first second : Draft} {path : String}, AsksInVain writePath first path →
    AsksInVain writePath second path → ∀ state state' : σ,
      (exchange source router first state).1 = (exchange source router second state').1 ∧
        (exchange source router first state).2.1 = (exchange source router second state').2.1

theorem serviceTable_namesUnroutedPaths {σ : Type} (source : IdSource σ) (writePath : String) :
    NamesUnroutedPaths source writePath (serviceTable writePath) where
  onePath := pathOf_iff_of_makes
  answered := by
    intro draft request path hmake hpath hunrouted state
    obtain rfl := (pathOf_iff_of_makes hmake path).mp hpath
    exact ⟨_, answer_of_unrouted source hunrouted state, namesPath_notFound hpath.notMem⟩
  served := by
    intro draft path hasks state
    exact ⟨_, _, exchange_of_asksInVain source hasks state, namesPath_notFound hasks.asked.notMem⟩
  apart := by
    intro first second path other hfirst hsecond hne state state' response response' hanswer
      hanswer' hbody
    rw [exchange_of_asksInVain source hfirst] at hanswer
    rw [exchange_of_asksInVain source hsecond] at hanswer'
    obtain rfl := Exchange.answered.inj hanswer
    obtain rfl := Exchange.answered.inj hanswer'
    have hnames := namesPath_notFound hfirst.asked.notMem
    exact hne (hnames.path_unique (namesPath_notFound hsecond.asked.notMem) hbody)
  alike := by
    intro first second path hfirst hsecond state state'
    rw [exchange_of_asksInVain source hfirst, exchange_of_asksInVain source hsecond]
    exact ⟨rfl, rfl⟩

/-- A service with an accepted write path names every path that it does not serve. -/
theorem accepted_writePath_names_unrouted_paths {σ : Type} (source : IdSource σ)
    {writePath : String} (haccepted : WritePath.check writePath = .ok ()) :
    ∃ router, serviceRoutes writePath = .ok router ∧
      NamesUnroutedPaths source writePath router :=
  ⟨serviceTable writePath, serviceRoutes_of_check haccepted,
    serviceTable_namesUnroutedPaths source writePath⟩

/-- A path with a quote, a backslash, a brace, an escaped letter and a letter that is not ASCII,
    in a whole address with a query and a fragment. -/
theorem quoted_path_is_named :
    WritePath.check "/v1" = .ok () ∧
      (∃ router, serviceRoutes "/v1" = .ok router ∧
        NamesUnroutedPaths Generator.source "/v1" router) ∧
      AsksInVain "/v1" ⟨"GET", "http://h/a\"\\\x7b%41\u00e9?q#f", [], ""⟩ "/a\"\\\x7b%41\u00e9" := by
  have hmake : Makes ⟨"GET", "http://h/a\"\\\x7b%41\u00e9?q#f", [], ""⟩
      ⟨.get, ⟨some "http", some "h", "/a\"\\\x7b%41\u00e9", some "q"⟩, [], ""⟩ := rfl
  have hpath := (pathOf_iff_of_makes hmake "/a\"\\\x7b%41\u00e9").mpr rfl
  have hasks : AsksInVain "/v1" ⟨"GET", "http://h/a\"\\\x7b%41\u00e9?q#f", [], ""⟩
      "/a\"\\\x7b%41\u00e9" :=
    ⟨⟨_, hmake⟩, hpath, ⟨by decide, by decide, by decide⟩, by decide⟩
  exact ⟨by decide, accepted_writePath_names_unrouted_paths Generator.source (by decide), hasks⟩

end SignalStub
