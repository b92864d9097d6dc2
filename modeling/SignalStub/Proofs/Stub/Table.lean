import SignalStub.Proofs.Http.Target
import SignalStub.Proofs.Route.Literal
import SignalStub.Proofs.Settings.WritePath
import SignalStub.Stub.Answer

/-! # The table of answers

    A service with an accepted write path has a table of three literal paths. Which of its answers
    a request gets depends on the method and the path alone: the rows of the table of answers
    exclude each other, and together they cover every method on every path.

    The write path never reaches the probes. It may share a beginning with them, or differ from
    them by a slash or by letter case, and each of the three paths is still compared as a whole.
-/

namespace SignalStub

open Http Log Randomness Route

/-! ## The table of routes -/

/-- The routes of a service whose write path is accepted. -/
def serviceTable (writePath : String) : Router Endpoint where
  entries := [.plain writePath .post .writeSignal, .plain livezPath .get .livez,
    .plain healthzPath .get .healthz]

/-- A router takes what the check calls literal at its word. -/
theorem isPlain_of_isLiteral {path : String} (h : ∀ c ∈ path.toList, WritePath.isLiteral c = true) :
    Route.IsPlain path := fun c hc => WritePath.isWildcard_of_isLiteral (h c hc)

theorem isPlain_livezPath : Route.IsPlain livezPath :=
  isPlain_of_isLiteral WritePath.isLiteral_of_mem_livezPath

theorem isPlain_healthzPath : Route.IsPlain healthzPath :=
  isPlain_of_isLiteral WritePath.isLiteral_of_mem_healthzPath

theorem livezPath_ne_healthzPath : livezPath ≠ healthzPath := by
  decide

theorem isPlain_serviceTable (writePath : String) : (serviceTable writePath).IsPlain := by
  simp [serviceTable, Router.IsPlain]

/-- The routes of a service are granted whenever its write path is accepted. -/
theorem serviceRoutes_of_check {writePath : String} (h : WritePath.check writePath = .ok ()) :
    serviceRoutes writePath = .ok (serviceTable writePath) := by
  obtain ⟨habsolute, hliteral, hlivez, hhealthz⟩ := (WritePath.check_eq_ok_iff writePath).mp h
  -- the three tables that the routes are added to are plain, so each addition is granted
  have hempty : Router.IsPlain (⟨[]⟩ : Router Endpoint) := by simp [Router.IsPlain]
  have hone : Router.IsPlain ⟨[Entry.plain writePath .post Endpoint.writeSignal]⟩ := by
    simp [Router.IsPlain]
  have htwo : Router.IsPlain ⟨[Entry.plain writePath .post Endpoint.writeSignal,
      .plain livezPath .get .livez]⟩ := by simp [Router.IsPlain]
  have hwrite := Router.route_plain hempty (WritePath.toList_of_isAbsolute habsolute)
    (isPlain_of_isLiteral hliteral) (by simp) .post Endpoint.writeSignal
  have hprobe := Router.route_plain hone ⟨"livez/".toList, by decide⟩
    isPlain_livezPath (by simpa [Entry.plain] using hlivez) .get Endpoint.livez
  have hhealth := Router.route_plain htwo ⟨"healthz/".toList, by decide⟩
    isPlain_healthzPath (by simp [Entry.plain, hhealthz, livezPath_ne_healthzPath])
    .get Endpoint.healthz
  unfold serviceRoutes
  show (Router.route ⟨[]⟩ writePath .post Endpoint.writeSignal >>= fun router =>
    router.route livezPath .get .livez >>= fun router => router.route healthzPath .get .healthz) = _
  rw [hwrite]
  show (Router.route ⟨[.plain writePath .post Endpoint.writeSignal]⟩ livezPath .get .livez >>=
    fun router => router.route healthzPath .get .healthz) = _
  rw [hprobe]
  exact hhealth

/-! ## Dispatch -/

/-- The methods that are served on a path. -/
def methodsServed (writePath path : String) : List Method :=
  if path = writePath then [.post]
  else if path = livezPath ∨ path = healthzPath then [.get, .head]
  else []

section Dispatch
variable {writePath : String}

theorem dispatch_writePath (method : Method) :
    (serviceTable writePath).dispatch method writePath =
      if method = .post then .endpoint .writeSignal else .methodNotAllowed [.post] := by
  have hlookup : (serviceTable writePath).lookup? writePath =
      some (.plain writePath .post .writeSignal) := by
    rw [Router.lookup?_plain (isPlain_serviceTable writePath)]
    simp [serviceTable, Entry.plain]
  rw [Router.dispatch, hlookup]
  cases method <;> rfl

/-- An entry that serves GET serves HEAD as well, and nothing else. -/
theorem dispatch_probe {path : String} {probe : Endpoint} {method : Method}
    (hlookup : (serviceTable writePath).lookup? path = some (.plain path .get probe)) :
    (serviceTable writePath).dispatch method path =
      if method = .get ∨ method = .head then .endpoint probe
      else .methodNotAllowed [.get, .head] := by
  rw [Router.dispatch, hlookup]
  cases method <;> rfl

theorem dispatch_livez (hlivez : writePath ≠ livezPath) (method : Method) :
    (serviceTable writePath).dispatch method livezPath =
      if method = .get ∨ method = .head then .endpoint .livez
      else .methodNotAllowed [.get, .head] := by
  apply dispatch_probe
  rw [Router.lookup?_plain (isPlain_serviceTable writePath)]
  simp [serviceTable, Entry.plain, hlivez]

theorem dispatch_healthz (hhealthz : writePath ≠ healthzPath) (method : Method) :
    (serviceTable writePath).dispatch method healthzPath =
      if method = .get ∨ method = .head then .endpoint .healthz
      else .methodNotAllowed [.get, .head] := by
  apply dispatch_probe
  rw [Router.lookup?_plain (isPlain_serviceTable writePath)]
  simp [serviceTable, Entry.plain, hhealthz, livezPath_ne_healthzPath]

/-- A path of the table answers a method that it does not serve with those that it serves. -/
theorem dispatch_not_served (hlivez : writePath ≠ livezPath) (hhealthz : writePath ≠ healthzPath)
    {method : Method} {path : String}
    (hknown : path = writePath ∨ path = livezPath ∨ path = healthzPath)
    (hserved : method ∉ methodsServed writePath path) :
    (serviceTable writePath).dispatch method path =
      .methodNotAllowed (methodsServed writePath path) := by
  by_cases hwrite : path = writePath
  · have hmethod : method ≠ .post := by simpa [methodsServed, hwrite] using hserved
    rw [methodsServed, if_pos hwrite, hwrite, dispatch_writePath, if_neg hmethod]
  · have hprobe := hknown.resolve_left hwrite
    rw [methodsServed, if_neg hwrite, if_pos hprobe] at hserved ⊢
    have hmethod : ¬ (method = .get ∨ method = .head) := by simpa using hserved
    rcases hprobe with hpath | hpath
    · rw [hpath, dispatch_livez hlivez, if_neg hmethod]
    · rw [hpath, dispatch_healthz hhealthz, if_neg hmethod]

theorem dispatch_other {path : String} (hwrite : path ≠ writePath) (hlivez : path ≠ livezPath)
    (hhealthz : path ≠ healthzPath) (method : Method) :
    (serviceTable writePath).dispatch method path = .unmatched := by
  have hlookup : (serviceTable writePath).lookup? path = none := by
    rw [Router.lookup?_plain (isPlain_serviceTable writePath)]
    simp [serviceTable, Entry.plain, hwrite.symm, hlivez.symm, hhealthz.symm]
  rw [Router.dispatch, hlookup]

/-- The methods of a path are those that lead to an endpoint there. -/
theorem mem_methodsServed_iff (hlivez : writePath ≠ livezPath) (hhealthz : writePath ≠ healthzPath)
    (method : Method) (path : String) :
    method ∈ methodsServed writePath path ↔
      ∃ endpoint, (serviceTable writePath).dispatch method path = .endpoint endpoint := by
  by_cases hknown : path = writePath ∨ path = livezPath ∨ path = healthzPath
  · by_cases hserved : method ∈ methodsServed writePath path
    · simp only [hserved, true_iff]
      by_cases hwrite : path = writePath
      · have hmethod : method = .post := by simpa [methodsServed, hwrite] using hserved
        exact ⟨.writeSignal, by rw [hwrite, dispatch_writePath, if_pos hmethod]⟩
      · have hprobe := hknown.resolve_left hwrite
        rw [methodsServed, if_neg hwrite, if_pos hprobe] at hserved
        have hmethod : method = .get ∨ method = .head := by simpa using hserved
        rcases hprobe with hpath | hpath
        · exact ⟨.livez, by rw [hpath, dispatch_livez hlivez, if_pos hmethod]⟩
        · exact ⟨.healthz, by rw [hpath, dispatch_healthz hhealthz, if_pos hmethod]⟩
    · rw [dispatch_not_served hlivez hhealthz hknown hserved]
      simp [hserved]
  · obtain ⟨hwrite, hprobe⟩ := not_or.mp hknown
    obtain ⟨hl, hh⟩ := not_or.mp hprobe
    rw [dispatch_other hwrite hl hh]
    simp [methodsServed, hwrite, hl, hh]

end Dispatch

/-! ## Rows -/

/-- The rows of the table of answers. -/
inductive AnswerRow
  | writeSignal
  | livez
  | healthz
  | methodNotAllowed
  | notFound
  deriving DecidableEq, Repr

namespace AnswerRow

/-- The methods and paths that a row is for. -/
def Applies (writePath : String) (method : Method) (path : String) : AnswerRow → Prop
  | writeSignal => path = writePath ∧ method = .post
  | livez => path = livezPath ∧ (method = .get ∨ method = .head)
  | healthz => path = healthzPath ∧ (method = .get ∨ method = .head)
  | methodNotAllowed =>
    (path = writePath ∨ path = livezPath ∨ path = healthzPath) ∧
      method ∉ methodsServed writePath path
  | notFound => path ≠ writePath ∧ path ≠ livezPath ∧ path ≠ healthzPath

/-- The status that a row answers with. -/
def status : AnswerRow → Nat
  | writeSignal | livez | healthz => 200
  | methodNotAllowed => 405
  | notFound => 404

/-- What a row does with a request in a state of the source. Only a written signal changes the
    state, and only it depends on whether the source yields a value. -/
def outcome {σ : Type} (source : IdSource σ) (writePath : String) (request : Request) (state : σ) :
    AnswerRow → Except DrawFault Answer × σ
  | writeSignal =>
    match source.nextEventId state with
    | (.ok id, next) => (.ok (.signalWritten id), next)
    | (.error fault, next) => (.error fault, next)
  | livez => (.ok (Answer.live.forMethod request.method), state)
  | healthz => (.ok ((Answer.healthy (source.kind state)).forMethod request.method), state)
  | methodNotAllowed =>
    let names := (methodsServed writePath request.uri.path).map Method.name
    (.ok { response := .empty 405 [("allow", ",".intercalate names)], events := [] }, state)
  | notFound => (.ok (.notFound request.uri.path), state)

variable {writePath : String}

/-- Some row is for every method on every path. -/
theorem exists_applies (writePath : String) (method : Method) (path : String) :
    ∃ row, Applies writePath method path row := by
  by_cases hwrite : path = writePath
  · by_cases hpost : method = .post
    · exact ⟨writeSignal, hwrite, hpost⟩
    · exact ⟨methodNotAllowed, .inl hwrite, by simp [methodsServed, hwrite, hpost]⟩
  · by_cases hprobe : path = livezPath ∨ path = healthzPath
    · by_cases hserved : method = .get ∨ method = .head
      · rcases hprobe with hlivez | hhealthz
        · exact ⟨livez, hlivez, hserved⟩
        · exact ⟨healthz, hhealthz, hserved⟩
      · refine ⟨methodNotAllowed, .inr hprobe, ?_⟩
        rw [methodsServed, if_neg hwrite, if_pos hprobe]
        simpa using hserved
    · exact ⟨notFound, hwrite, fun h => hprobe (.inl h), fun h => hprobe (.inr h)⟩

/-- No two rows are for the same method on the same path. -/
theorem applies_unique (hlivez : writePath ≠ livezPath) (hhealthz : writePath ≠ healthzPath)
    {method : Method} {path : String} {row other : AnswerRow}
    (hrow : Applies writePath method path row) (hother : Applies writePath method path other) :
    other = row := by
  have hprobes := livezPath_ne_healthzPath
  -- every pair of different rows disagrees about the path or about the method
  cases row <;> cases other <;> simp only [Applies, methodsServed] at hrow hother <;> grind

/-- A service answers a request as the row says that is for it. -/
theorem answer_eq_outcome {σ : Type} (source : IdSource σ) (hlivez : writePath ≠ livezPath)
    (hhealthz : writePath ≠ healthzPath) {request : Request} {row : AnswerRow}
    (hrow : Applies writePath request.method request.uri.path row) (state : σ) :
    answer source (serviceTable writePath) request state =
      row.outcome source writePath request state := by
  unfold answer drawFree
  cases row with
  | writeSignal =>
    obtain ⟨hpath, hmethod⟩ := hrow
    have hdispatch : (serviceTable writePath).dispatch request.method request.uri.path =
        .endpoint .writeSignal := by
      rw [hpath, dispatch_writePath, if_pos hmethod]
    -- only a response to HEAD loses its body
    have hbody : ∀ reply : Answer, reply.forMethod request.method = reply := by
      intro reply
      simp [Answer.forMethod, hmethod]
    cases hdraw : source.nextEventId state with
    | mk drawn next => cases drawn <;> simp only [hdispatch, outcome, hbody, hdraw]
  | livez =>
    obtain ⟨hpath, hserved⟩ := hrow
    have hdispatch : (serviceTable writePath).dispatch request.method request.uri.path =
        .endpoint .livez := by
      rw [hpath, dispatch_livez hlivez, if_pos hserved]
    simp only [hdispatch, outcome]
  | healthz =>
    obtain ⟨hpath, hserved⟩ := hrow
    have hdispatch : (serviceTable writePath).dispatch request.method request.uri.path =
        .endpoint .healthz := by
      rw [hpath, dispatch_healthz hhealthz, if_pos hserved]
    simp only [hdispatch, outcome]
  | methodNotAllowed =>
    obtain ⟨hknown, hserved⟩ := hrow
    have hdispatch := dispatch_not_served hlivez hhealthz hknown hserved
    simp only [hdispatch, outcome, Answer.methodNotAllowed]
  | notFound =>
    obtain ⟨hwrite, hlivez, hhealthz⟩ := hrow
    have hdispatch := dispatch_other hwrite hlivez hhealthz request.method
    simp only [hdispatch, outcome]

/-- The status of an answer tells the kind of its row. -/
theorem status_of_outcome {σ : Type} {source : IdSource σ} {request : Request} {row : AnswerRow}
    {state : σ} {reply : Answer}
    (h : (row.outcome source writePath request state).1 = .ok reply) :
    reply.response.status = row.status := by
  have hkeeps : ∀ answer : Answer,
      (answer.forMethod request.method).response.status = answer.response.status := by
    intro answer
    unfold Answer.forMethod
    split <;> rfl
  cases row with
  | writeSignal =>
    simp only [outcome] at h
    split at h
    · cases h; rfl
    · cases h
  | livez => cases h; exact hkeeps _
  | healthz => cases h; exact hkeeps _
  | methodNotAllowed => cases h; rfl
  | notFound => cases h; rfl

end AnswerRow

/-! ## The table as a whole -/

/-- What the requests of a service with a write path are answered, whatever its source yields. -/
structure AnswersByTable {σ : Type} (source : IdSource σ) (writePath : String)
    (router : Router Endpoint) : Prop where
  /-- One row is for a request and no other, and the answer is the one of the row. -/
  oneRow : ∀ (request : Request) (state : σ), ∃ row : AnswerRow,
    row.Applies writePath request.method request.uri.path ∧
      (∀ other : AnswerRow, other.Applies writePath request.method request.uri.path → other = row) ∧
        answer source router request state = row.outcome source writePath request state ∧
          ∀ reply, (answer source router request state).1 = .ok reply →
            reply.response.status = row.status
  /-- The methods that a path lists where it does not serve one are those that it serves. -/
  listed : ∀ (method : Method) (path : String),
    method ∈ methodsServed writePath path ↔
      ∃ endpoint, router.dispatch method path = .endpoint endpoint
  /-- A probe answers HEAD like GET, without the body. -/
  probeHead : ∀ (request : Request) (state : σ),
    request.uri.path = livezPath ∨ request.uri.path = healthzPath → request.method = .head →
      ∃ reply, answer source router { request with method := .get } state = (.ok reply, state) ∧
        answer source router request state =
          (.ok { reply with response := { reply.response with body := "" } }, state)
  /-- The path that counts is the one that was written. -/
  rawPath : ∀ (method target body : String) (headers : Headers) (request : Request),
    target.toList.head? = some '/' → Request.make method target headers body = .ok request →
      request.uri.path = Http.rawPath target
  /-- Every path but the write path is not found, unless it is the path of a probe. -/
  otherPath : ∀ (request : Request) (state : σ), request.uri.path ≠ writePath →
    request.uri.path = livezPath ∨ request.uri.path = healthzPath ∨
      answer source router request state = (.ok (.notFound request.uri.path), state)
  /-- The write path makes no difference to the probes. -/
  probesKept : ∀ (otherPath : String) (otherRouter : Router Endpoint),
    WritePath.check otherPath = .ok () → serviceRoutes otherPath = .ok otherRouter →
      ∀ (request : Request) (state : σ),
        request.uri.path = livezPath ∨ request.uri.path = healthzPath →
          answer source otherRouter request state = answer source router request state

section Whole
variable {σ : Type} {writePath : String}

theorem ne_of_probe {path : String} (hlivez : writePath ≠ livezPath)
    (hhealthz : writePath ≠ healthzPath) (hprobe : path = livezPath ∨ path = healthzPath) :
    path ≠ writePath := by
  rcases hprobe with hpath | hpath
  · rw [hpath]
    exact hlivez.symm
  · rw [hpath]
    exact hhealthz.symm

/-- On the probes' paths a row is for a request, or not, whatever the write path is. -/
theorem AnswerRow.Applies.of_probe {otherPath path : String} {method : Method} {row : AnswerRow}
    (hother : path ≠ otherPath) (hwrite : path ≠ writePath)
    (hprobe : path = livezPath ∨ path = healthzPath) (h : row.Applies writePath method path) :
    row.Applies otherPath method path := by
  cases row with
  | writeSignal => exact absurd h.1 hwrite
  | livez => exact h
  | healthz => exact h
  | methodNotAllowed =>
    obtain ⟨-, hserved⟩ := h
    refine ⟨.inr hprobe, ?_⟩
    rw [methodsServed, if_neg hwrite, if_pos hprobe] at hserved
    rw [methodsServed, if_neg hother, if_pos hprobe]
    exact hserved
  | notFound =>
    obtain ⟨-, hlivez, hhealthz⟩ := h
    exact absurd hprobe (by simp [hlivez, hhealthz])

/-- On the probes' paths a row does the same, whatever the write path is. -/
theorem AnswerRow.outcome_of_probe (source : IdSource σ) {otherPath : String} {request : Request}
    {row : AnswerRow} (hother : request.uri.path ≠ otherPath)
    (hwrite : request.uri.path ≠ writePath)
    (h : row.Applies writePath request.method request.uri.path) (state : σ) :
    row.outcome source otherPath request state = row.outcome source writePath request state := by
  cases row with
  | writeSignal => exact absurd h.1 hwrite
  | livez => rfl
  | healthz => rfl
  | methodNotAllowed => simp [outcome, methodsServed, hother, hwrite]
  | notFound => rfl

/-- The row of a probe answers HEAD like GET, without the body. -/
theorem AnswerRow.outcome_head (source : IdSource σ) {request : Request} {row : AnswerRow}
    (hkind : row = .livez ∨ row = .healthz) (hhead : request.method = .head) (state : σ) :
    ∃ reply, row.outcome source writePath { request with method := .get } state =
        (.ok reply, state) ∧
      row.outcome source writePath request state =
        (.ok { reply with response := { reply.response with body := "" } }, state) := by
  rcases hkind with rfl | rfl
  · exact ⟨Answer.live, rfl, by rw [outcome, hhead]; rfl⟩
  · exact ⟨Answer.healthy (source.kind state), rfl, by rw [outcome, hhead]; rfl⟩

theorem serviceTable_answersByTable (source : IdSource σ) (hlivez : writePath ≠ livezPath)
    (hhealthz : writePath ≠ healthzPath) :
    AnswersByTable source writePath (serviceTable writePath) where
  oneRow := by
    intro request state
    obtain ⟨row, hrow⟩ := AnswerRow.exists_applies writePath request.method request.uri.path
    have houtcome := AnswerRow.answer_eq_outcome source hlivez hhealthz hrow state
    refine ⟨row, hrow, fun other => AnswerRow.applies_unique hlivez hhealthz hrow, houtcome, ?_⟩
    intro reply hreply
    rw [houtcome] at hreply
    exact AnswerRow.status_of_outcome hreply
  listed := mem_methodsServed_iff hlivez hhealthz
  probeHead := by
    intro request state hprobe hhead
    have hrow : ∀ row : AnswerRow, row = .livez ∨ row = .healthz →
        (∀ method, method = .get ∨ method = .head →
          row.Applies writePath method request.uri.path) →
            ∃ reply, answer source (serviceTable writePath) { request with method := .get } state =
              (.ok reply, state) ∧ answer source (serviceTable writePath) request state =
                (.ok { reply with response := { reply.response with body := "" } }, state) := by
      intro row hkind happlies
      rw [AnswerRow.answer_eq_outcome source hlivez hhealthz (happlies .get (.inl rfl)),
        AnswerRow.answer_eq_outcome source hlivez hhealthz (happlies request.method (.inr hhead))]
      exact AnswerRow.outcome_head source hkind hhead state
    rcases hprobe with hpath | hpath
    · exact hrow .livez (.inl rfl) fun method hmethod => ⟨hpath, hmethod⟩
    · exact hrow .healthz (.inr rfl) fun method hmethod => ⟨hpath, hmethod⟩
  rawPath := by
    intro method target body headers request hslash hmake
    exact Request.path_of_make hslash hmake
  otherPath := by
    intro request state hwrite
    by_cases hl : request.uri.path = livezPath
    · exact .inl hl
    · by_cases hh : request.uri.path = healthzPath
      · exact .inr (.inl hh)
      · exact .inr (.inr (AnswerRow.answer_eq_outcome source hlivez hhealthz
          (show AnswerRow.notFound.Applies _ _ _ from ⟨hwrite, hl, hh⟩) state))
  probesKept := by
    intro otherPath otherRouter haccepted hroutes request state hprobe
    obtain ⟨hotherLivez, hotherHealthz⟩ := WritePath.ne_probes_of_check haccepted
    have hrouter : otherRouter = serviceTable otherPath := by
      rw [serviceRoutes_of_check haccepted] at hroutes
      exact (Except.ok.inj hroutes).symm
    have hother := ne_of_probe hotherLivez hotherHealthz hprobe
    have hwrite := ne_of_probe hlivez hhealthz hprobe
    obtain ⟨row, hrow⟩ := AnswerRow.exists_applies writePath request.method request.uri.path
    -- the row of a probe is the same in both tables, and does the same
    have hsame := hrow.of_probe hother hwrite hprobe
    rw [hrouter, AnswerRow.answer_eq_outcome source hotherLivez hotherHealthz hsame,
      AnswerRow.answer_eq_outcome source hlivez hhealthz hrow]
    exact AnswerRow.outcome_of_probe source hother hwrite hrow state

end Whole

/-- Every accepted write path makes a service that answers by the table. -/
theorem accepted_writePath_answers_by_table {σ : Type} (source : IdSource σ) (writePath : String)
    (haccepted : WritePath.check writePath = .ok ()) :
    ∃ router, serviceRoutes writePath = .ok router ∧ AnswersByTable source writePath router := by
  obtain ⟨hlivez, hhealthz⟩ := WritePath.ne_probes_of_check haccepted
  exact ⟨serviceTable writePath, serviceRoutes_of_check haccepted,
    serviceTable_answersByTable source hlivez hhealthz⟩

/-- A write path that is a probe's path but for the last slash. -/
theorem livez_without_slash_answers_by_table :
    WritePath.check "/livez" = .ok () ∧
      ∃ router, serviceRoutes "/livez" = .ok router ∧
        AnswersByTable Generator.source "/livez" router :=
  ⟨by decide, accepted_writePath_answers_by_table Generator.source "/livez" (by decide)⟩

/-- Another spelling of a write path may be the path of a probe: a slash behind this one leads to
    the liveness probe, which answers. -/
theorem slash_behind_write_path_reaches_probe :
    WritePath.check "/livez" = .ok () ∧
      ∃ router, serviceRoutes "/livez" = .ok router ∧
        answer Generator.source router ⟨.get, ⟨none, none, "/livez" ++ "/", none⟩, [], ""⟩
            (.fixed 424242) = (.ok Answer.live, .fixed 424242) ∧
          Answer.live.response.status ≠ 404 :=
  ⟨by decide, serviceTable "/livez", serviceRoutes_of_check (by decide), rfl, by decide⟩

end SignalStub
