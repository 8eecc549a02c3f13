import EventRelay.Proofs.Delivery.Bearing
import EventRelay.Proofs.Service.Identity
import EventRelay.Proofs.Service.Influence

/-!
# A request under one id

All that the service does for an event goes by one correlation id: the contexts that it makes, the
sends, the answer and the records. The id is chosen when the context of the request is made; from
there on the work is done through contexts that bear it.

* `openRequest_under`, `arrive_under`, `decide_under`, `ingest_under`: the stages of an event.
* `serve_under`: the whole of it, with what lies downstream in view.
* `one_id_per_request`: contexts, sends, records and the answer.
-/

namespace EventRelay

namespace Http.Response

theorem find?_withCorrelation {header id : String} (hname : isFieldName header = true)
    (hvalue : isFieldValue id.toUTF8 = true) (response : Response) :
    (response.withCorrelation header id).headers.find? header = some id.toUTF8 := by
  rw [withCorrelation, hname, hvalue]
  exact Headers.find?_set_self response.headers header id.toUTF8

/-- A response that says how long its body is still says what it said. -/
theorem find?_withLength {response : Response} {name : String} {value : ByteArray}
    (h : response.headers.find? name = some value) :
    response.withLength.headers.find? name = some value := by
  unfold withLength
  split
  · exact h
  · next hnone =>
    rw [← h]
    refine Headers.find?_set_of_ne (fun he => hnone ?_) _ _
    rw [show response.headers.find? "content-length" = response.headers.find? name from
      congrArg (List.lookup · response.headers) he.symm, h]
    rfl

end Http.Response

namespace Service

variable {σ : Type} {id : String} {P : σ → Prop} {service : Service σ} {request : Http.Request}
  {span : ContextId}

/-! ## What is recorded of an event -/

theorem noteIdentity_under (span : ContextId) {name : String} (h : name ≠ Key.traceId)
    (text : String) (r : Realm σ) : Realm.Under id P r (noteIdentity span name text r) := by
  unfold noteIdentity
  split
  · exact .refl r
  · exact (r.setValue_under span name _).trans (Realm.setLogValue_under _ span h _)

theorem noteRequest_under (settings : Settings) (request : Http.Request) (span : ContextId)
    (r : Realm σ) : Realm.Under id P r (noteRequest settings request span r) := by
  unfold noteRequest
  refine Realm.Under.trans ?_ (noteIdentity_under span (by decide) _ _)
  refine Realm.Under.trans ?_ (noteIdentity_under span (by decide) _ _)
  exact (r.setValue_under _ _ _).trans (Realm.setValue_under _ _ _ _)

/-- The log values that are found in a payload have the names that the settings give them. -/
theorem anonymous_logFieldsOf {settings : Settings} (h : Anonymous settings.logParams)
    (payload : ByteArray) : Anonymous (logFieldsOf settings payload) := by
  unfold logFieldsOf
  split
  · intro field hfield
    obtain ⟨param, hparam, hfound⟩ := List.mem_filterMap.1 hfield
    obtain ⟨value, -, rfl⟩ := Option.map_eq_some_iff.1 hfound
    exact h param hparam
  · simp [Anonymous]

theorem notePayload_under {settings : Settings} (h : Anonymous settings.logParams)
    (payload : ByteArray) (span : ContextId) (r : Realm σ) :
    Realm.Under id P r (notePayload settings payload span r) := by
  have hfold : ∀ (fields : List (String × String)) (s : Realm σ), Anonymous fields →
      Realm.Under id P s
        (fields.foldl (fun s field => s.setLogValue span field.1 (.str field.2)) s) := by
    intro fields
    induction fields with
    | nil => exact fun s _ => .refl s
    | cons field fields ih =>
      intro s hfields
      refine (s.setLogValue_under span (hfields field List.mem_cons_self) _).trans (ih _ ?_)
      exact fun other hother => hfields other (List.mem_cons_of_mem field hother)
  have hnoted := hfold _ r (anonymous_logFieldsOf h payload)
  unfold notePayload
  dsimp only
  split
  · exact hnoted.trans (Realm.setValue_under _ _ _ _)
  · exact hnoted

theorem logExchange_under (exchange : Exchange) (r : Realm σ)
    (hspan : (r.context span).Bears id) : Realm.Under id P r (logExchange span exchange r) := by
  unfold logExchange
  split
  · exact r.log_under hspan _ _ (by simp [Anonymous, Key.traceId])
  · split
    · exact .refl r
    · exact r.log_under hspan _ _ (by simp [Anonymous, Key.traceId])

theorem anonymous_arrivalAttributes (request : Http.Request) :
    Anonymous (arrivalAttributes request) := by
  unfold arrivalAttributes
  split <;> simp [Anonymous, Key.traceId, AttributeName.httpMethod, AttributeName.httpRoute,
    AttributeName.httpHost]

theorem anonymous_departureAttributes (settings : Settings) (request : Http.Request)
    (response : Http.Response) : Anonymous (departureAttributes settings request response) := by
  have happend : ∀ {fields more : List (String × String)}, Anonymous fields → Anonymous more →
      Anonymous (fields ++ more) := fun h h' field hfield =>
    (List.mem_append.1 hfield).elim (h field) (h' field)
  refine happend (happend (anonymous_arrivalAttributes request) ?_) ?_
  · split <;> simp [Anonymous, Key.traceId, AttributeName.topic]
  · simp [Anonymous, Key.traceId, AttributeName.httpStatusCode]

/-! ## The stages of an event -/

/-- The context of a request is made under the id of the request. -/
theorem openRequest_under (service : Service σ) (request : Http.Request) (r : Realm σ) :
    Realm.Under (service.correlationOf request r) P r (service.openRequest request r).2 := by
  have hlt : r.contexts.size < (r.derive service.home.root).2.contexts.size := by
    rw [r.size_derive]
    exact Nat.lt_succ_self _
  have hold : ∀ c < r.contexts.size,
      (r.derive service.home.root).2.context c = r.context c :=
    fun c hc => r.context_derive_of_lt hc service.home.root
  have hdown := (r.derive_quiet service.home.root).downstream_eq
  unfold openRequest correlationOf Instance.requestContext
  dsimp only
  rw [r.derive_fst]
  refine Realm.Under.trans ?_ (Realm.setLogValue_under _ _ (by decide) _)
  -- The root need not bear the id, so this is no step under it: the new context is looked at.
  cases correlationId? service.home.settings request with
  | none =>
    exact .of_born (r.size_derive _) hold ⟨r.id_derive _, r.inStep_derive _⟩
      (r.journal_derive _) hdown
  | some id =>
    dsimp only
    refine .of_born ?_ (fun c hc => ?_) ?_ (r.journal_derive _) hdown
    · rw [← r.size_derive service.home.root]
      simp [Realm.setId, Realm.update]
    · exact (Realm.context_update_ne _ (Nat.ne_of_lt hc) _).trans (hold c hc)
    · rw [Realm.setId, Realm.context_update_self _ hlt]
      exact ⟨rfl, Context.inStep_setId id _⟩

/-- The context of a request bears the id of the request. -/
theorem bears_openRequest (service : Service σ) (request : Http.Request) (r : Realm σ) :
    r.contexts.size < (service.openRequest request r).2.contexts.size ∧
      ((service.openRequest request r).2.context r.contexts.size).Bears
        (service.correlationOf request r) := by
  have hlt : r.contexts.size < (service.openRequest request r).2.contexts.size := by
    refine Nat.lt_of_lt_of_le ?_ (service.openRequest_snd request r).size_le
    rw [r.size_derive]
    exact Nat.lt_succ_self _
  have hopened := service.openRequest_under (P := fun _ => True) request r
  exact ⟨hlt, hopened.bears _ (Nat.le_refl _) hlt⟩

section Stages

variable {c : ContextId} (hid : id ≠ "")
  (hbrought : ∀ brought, correlationId? service.home.settings request = some brought →
    brought = id)
  (hparams : Anonymous service.home.settings.logParams)
  (ht : Transport.SendsUnder id P
    (relayedRequest service.home.settings request id request.body) service.transport)

include hid hbrought in
theorem arrive_under (r : Realm σ) (hc : (r.context c).Bears id) :
    Realm.Under id P r (service.arrive (some c) request r).2 := by
  have hopen := r.openSpan_under (P := P) hc hid SpanName.httpHandle
    (anonymous_arrivalAttributes request)
  unfold arrive
  dsimp only
  refine Realm.Under.trans ?_ (noteRequest_under _ _ _ _)
  cases h : correlationId? service.home.settings request with
  | none => exact hopen
  | some brought =>
    obtain rfl := hbrought brought h
    exact hopen.trans (Realm.setId_under _ _)

include hid ht in
theorem forward_under (r : Realm σ)
    (hspan : span < r.contexts.size ∧ (r.context span).Bears id) :
    Realm.Under id P r (service.forward request span request.body r).2 := by
  unfold forward
  dsimp only
  rw [hspan.2.1]
  have hsent : Realm.Under id P r
      (service.courier.sendBefore service.deadline service.transport span _ r).2 :=
    Courier.sendBefore_under hid ht r hspan
  have hstill := hsent.still hspan
  generalize service.courier.sendBefore service.deadline service.transport span _ r = sent
    at hsent hstill ⊢
  obtain ⟨outcome, s⟩ := sent
  cases outcome with
  | returned x =>
    have hsettled : Realm.Under id P s (settle span request.body x s) := by
      unfold settle
      split
      · exact s.forget_under span request.body
      · exact .refl s
    exact (hsent.trans hsettled).trans (logExchange_under x _ (hsettled.still hstill).2)
  | panicked panic => exact hsent
  | hung => exact hsent

include hid hparams ht in
theorem decide_under (r : Realm σ)
    (hspan : span < r.contexts.size ∧ (r.context span).Bears id) :
    Realm.Under id P r (service.decide request span r).2 := by
  unfold decide
  dsimp only
  cases hread : request.readBody (bodyLimit service.home.settings) with
  | error reason => exact r.log_under hspan.2 _ _ (by simp [Anonymous, Key.traceId])
  | ok payload =>
    obtain rfl := eq_body_of_readBody hread
    have hnoted : Realm.Under id P r (notePayload _ request.body span r) :=
      notePayload_under hparams request.body span r
    have hstill := hnoted.still hspan
    dsimp only
    generalize notePayload _ _ span r = s at hnoted hstill ⊢
    split
    · exact hnoted.trans (s.log_under hstill.2 _ _ (by simp [Anonymous]))
    · have hasked : Realm.Under id P s (s.isDuplicate span request.body).2 :=
        s.isDuplicate_under span request.body
      have hstill := hasked.still hstill
      generalize s.isDuplicate span request.body = asked at hasked hstill ⊢
      obtain ⟨hit, s'⟩ := asked
      have hasked := hnoted.trans hasked
      cases hit with
      | true => exact hasked.trans (s'.log_under hstill.2 _ _ (by simp [Anonymous]))
      | false => exact hasked.trans (forward_under hid ht s' hstill)

include hid hbrought hparams ht in
/-- When an event is judged, its span bears the id. -/
theorem judge_under (r : Realm σ) (hc : (r.context c).Bears id) :
    Realm.Under id P r (service.judge (some c) request r).2 ∧
      r.contexts.size < (service.judge (some c) request r).2.contexts.size ∧
      ((service.judge (some c) request r).2.context r.contexts.size).Bears id := by
  have harrived := arrive_under (P := P) hid hbrought r hc
  obtain ⟨hlt, -⟩ := service.hasChecker_arrive (some c) request r
  have hspan := harrived.bears r.contexts.size (Nat.le_refl _) hlt
  unfold judge
  rw [service.arrive_fst]
  have hdecided := decide_under hid hparams ht _ ⟨hlt, hspan⟩
  exact ⟨harrived.trans hdecided, hdecided.still ⟨hlt, hspan⟩⟩

theorem depart_under (started : UInt64) (response : Http.Response) (r : Realm σ)
    (hspan : span < r.contexts.size ∧ (r.context span).Bears id) :
    Realm.Under id P r (service.depart request span started response r).2 := by
  have hplain := anonymous_departureAttributes service.home.settings request
    (response.withCorrelation service.home.settings.transactionHeader (r.context span).id)
  have hmeasured := r.measure_under (P := P) (r.observerOf span) hspan.2
    MetricName.httpHandleDuration hplain (Courier.metricOf (r.clock.millisSince started))
  exact hmeasured.trans (Realm.closeSpan_under _ _ (hmeasured.still hspan).2 hplain none)

include hid hbrought hparams ht in
theorem ingest_under (r : Realm σ) (hc : (r.context c).Bears id) :
    Realm.Under id P r (service.ingest (some c) request r).2 := by
  obtain ⟨hjudged, hspan⟩ := judge_under hid hbrought hparams ht r hc
  unfold ingest
  unfold judge at hjudged hspan
  dsimp only
  rw [service.arrive_fst] at hjudged hspan ⊢
  generalize service.decide request _ _ = decided at hjudged hspan ⊢
  obtain ⟨outcome, s⟩ := decided
  cases outcome with
  | returned verdict => exact hjudged.trans (depart_under _ _ s hspan)
  | panicked panic => exact hjudged
  | hung => exact hjudged

include hid hbrought hparams ht in
/-- The answer to an event tells the id. -/
theorem find?_ingest (hname : Http.isFieldName service.home.settings.transactionHeader = true)
    (hvalue : Http.isFieldValue id.toUTF8 = true) (r : Realm σ) (hc : (r.context c).Bears id)
    {response : Http.Response}
    (hresponse : (service.ingest (some c) request r).1 = .returned response) :
    response.headers.find? service.home.settings.transactionHeader = some id.toUTF8 := by
  obtain ⟨-, hspan⟩ := judge_under hid hbrought hparams ht r hc
  unfold ingest at hresponse
  unfold judge at hspan
  dsimp only at hresponse
  rw [service.arrive_fst] at hresponse hspan
  generalize service.decide request _ _ = decided at hresponse hspan
  obtain ⟨outcome, s⟩ := decided
  cases outcome with
  | returned verdict =>
    obtain rfl := Outcome.returned.inj hresponse
    rw [depart, hspan.2.1]
    exact Http.Response.find?_withCorrelation hname hvalue verdict.response
  | panicked panic => cases hresponse
  | hung => cases hresponse

end Stages

/-! ## The whole of it -/

/-- The realm that is left when panics are contained. -/
theorem containingPanics_snd (service : Service σ) (handler : Handler σ)
    (parent : Option ContextId) (request : Http.Request) (r : Realm σ) :
    (service.containingPanics handler parent request r).2 =
      ((service.openRequest request r).2.contain r.contexts.size
        (handler (some r.contexts.size) request)).2 := by
  unfold containingPanics
  dsimp only
  rw [service.openRequest_fst]
  generalize Realm.contain _ _ _ = contained
  obtain ⟨outcome, s⟩ := contained
  cases outcome with
  | returned response? => cases response? <;> rfl
  | panicked panic => rfl
  | hung => rfl

/-- A handler whose time is over was at work under the id until then. -/
theorem withTimeLimit_under {handler : Nat → Handler σ} {parent : Option ContextId} {r : Realm σ}
    (h : Realm.Under id P r (handler (deadlineFrom r) parent request r).2) :
    Realm.Under id P r (withTimeLimit handler parent request r).2 := by
  unfold withTimeLimit
  dsimp only
  generalize handler (deadlineFrom r) parent request r = done at h ⊢
  obtain ⟨outcome, s⟩ := done
  cases outcome with
  | returned response => exact h
  | panicked panic => exact h
  | hung => exact h.trans (.of_eq rfl rfl rfl)

theorem eq_correlationOf {r : Realm σ} : ∀ brought,
    correlationId? service.home.settings request = some brought →
      brought = service.correlationOf request r := by
  intro brought h
  rw [correlationOf, h]
  rfl

section Whole

variable (hmethod : request.method = "POST") (hpath : request.path = eventsRoute)
  (hparams : Anonymous service.home.settings.logParams) {r : Realm σ}
  (ht : Transport.SendsUnder (service.correlationOf request r) P
    (relayedRequest service.home.settings request (service.correlationOf request r) request.body)
    service.transport)

include hmethod hpath hparams ht in
/-- What the service does for an event once its context is made. -/
theorem contained_under : Realm.Under (service.correlationOf request r) P
    (service.openRequest request r).2 ((service.openRequest request r).2.contain r.contexts.size
      (withTimeLimit (fun deadline => (service.before deadline).routes.serve)
        (some r.contexts.size) request)).2 := by
  have hopened := service.bears_openRequest request r
  have hentered := (Realm.enter_under (P := P) _).still hopened
  have hbrought : ∀ brought,
      correlationId? (service.before (deadlineFrom r)).home.settings request = some brought →
        brought = service.correlationOf request r := eq_correlationOf
  refine Realm.contain_under hopened (withTimeLimit_under ?_)
  rw [deadlineFrom_openRequest, routes_serve_eq hmethod hpath]
  exact ingest_under (service.correlationOf_ne_empty request r) hbrought hparams ht _ hentered.2

include hmethod hpath hparams ht in
/-- **Work.** All that the service does for an event is work under the id of the event. -/
theorem serve_under : Realm.Under (service.correlationOf request r) P r
    (service.serve none request r).2 := by
  rw [serve, containingPanics_snd]
  exact (service.openRequest_under request r).trans (contained_under hmethod hpath hparams ht)

include hmethod hpath hparams ht in
/-- **Answers.** An event whose time is not over is answered under its id, also after a panic. -/
theorem serve_correlated (hname : Http.isFieldName service.home.settings.transactionHeader = true)
    (hvalue : Http.isFieldValue (service.correlationOf request r).toUTF8 = true) :
    ∃ response, (service.serve none request r).1 = .returned response ∧
      ((service.served ⟨none, request, r⟩).1 ≠ .hung →
        response.headers.find? service.home.settings.transactionHeader =
          some (service.correlationOf request r).toUTF8) ∧
      ∀ panic, (service.served ⟨none, request, r⟩).1 = .panicked panic →
        response.body = (Json.ofMembers [("error", .str "internal server error"),
          ("correlationId", .str (service.correlationOf request r))]).render.toUTF8 := by
  have hopened := service.bears_openRequest request r
  have hentered := (Realm.enter_under (P := P) _).still hopened
  have hcontained := (contained_under hmethod hpath hparams ht).still hopened
  have hbrought : ∀ brought,
      correlationId? (service.before (deadlineFrom r)).home.settings request = some brought →
        brought = service.correlationOf request r := eq_correlationOf
  have htold : ∀ response, ((service.before (deadlineFrom r)).ingest (some r.contexts.size) request
      (service.openRequest request r).2.enter).1 = .returned response →
      response.headers.find? service.home.settings.transactionHeader =
        some (service.correlationOf request r).toUTF8 := fun response =>
    find?_ingest (service.correlationOf_ne_empty request r) hbrought hparams ht hname hvalue _
      hentered.2
  have hcases := (service.before (deadlineFrom r)).ingest_cases (some r.contexts.size) request
    (service.openRequest request r).2.enter
  unfold serve containingPanics served during judged entered
  dsimp only
  rw [service.openRequest_fst]
  unfold Realm.contain withTimeLimit at hcontained ⊢
  dsimp only at hcontained ⊢
  rw [deadlineFrom_openRequest, routes_serve_eq hmethod hpath] at hcontained ⊢
  -- With a verdict the handler tells the id, after a panic the catch around it does.
  obtain ⟨verdict, response, s, hv, he, -⟩ | ⟨panic, hp, he⟩ | ⟨hh, he⟩ := hcases
  · rw [hv]
    rw [he] at htold ⊢
    exact ⟨_, rfl, fun _ => Http.Response.find?_withLength (htold response rfl), by simp⟩
  · rw [hp]
    rw [he] at hcontained ⊢
    dsimp only [Outcome.map] at hcontained ⊢
    refine ⟨_, rfl, fun _ => ?_, fun _ _ => ?_⟩
    · rw [hcontained.2.1, Http.Response.answering, hmethod, if_neg (by decide)]
      exact Http.Response.find?_withLength (Http.Response.find?_withCorrelation hname hvalue _)
    · rw [hcontained.2.1, Http.Response.answering, hmethod, if_neg (by decide),
        (status_withLength _).2, (Http.Response.status_withCorrelation _ _ _).2]
      rfl
  · rw [hh]
    rw [he]
    exact ⟨_, rfl, fun h => absurd rfl h, by simp⟩

end Whole

/-! ## What is sent -/

/-- Under the header of the correlation id, written in any case, an event is passed on with its
id. -/
theorem relayedHeaders_named {settings : Settings} (request : Http.Request) (id : String)
    (hkind : Http.headerName settings.transactionHeader ≠ "content-type")
    (htenant : Http.headerName settings.transactionHeader ≠
      Http.headerName settings.tenantHeader) :
    Entries.find? settings.transactionHeader
        (Entries.ofList (relayedHeaders settings request id)) = some id ∧
      ∀ header ∈ Entries.ofList (relayedHeaders settings request id),
        Http.headerName header.1 = Http.headerName settings.transactionHeader →
          header.2 = id := by
  unfold relayedHeaders
  generalize (request.headers.text? "content-type").getD "application/json" = kind
  have hboth : Entries.find? settings.transactionHeader (Entries.ofList [("content-type", kind),
        (settings.transactionHeader, id)]) = some id ∧
      ∀ header ∈ Entries.ofList [("content-type", kind), (settings.transactionHeader, id)],
        Http.headerName header.1 = Http.headerName settings.transactionHeader →
          header.2 = id := by
    refine ⟨Entries.find?_insert_self _ _ _, fun header hmem hsame => ?_⟩
    rcases Entries.mem_insert hmem with rfl | hmem
    · rfl
    · obtain rfl | hmem := Entries.mem_insert hmem
      · exact absurd (hsame.symm.trans (show Http.headerName "content-type" = _ by decide)) hkind
      · cases hmem
  cases request.headers.text? settings.tenantHeader with
  | none => exact hboth
  | some tenant =>
    refine ⟨?_, fun header hmem hsame => ?_⟩
    · exact (Entries.find?_insert_of_ne (fun he => htenant (congrArg Http.headerName he)) _ _).trans
        hboth.1
    · rcases Entries.mem_insert hmem with rfl | hmem
      · exact absurd hsame.symm htenant
      · exact hboth.2 header hmem hsame

/-- The sends for an event, through a faithful transport, are made under its id. -/
theorem calls_named (service : Service σ) (hmethod : request.method = "POST")
    (hpath : request.path = eventsRoute) (hparams : Anonymous service.home.settings.logParams)
    (ht : Transport.Faithful service.transport) (r : Realm σ) :
    ∀ call ∈ service.calls request r, call.1 = service.correlationOf request r := by
  -- The notes are part of what lies downstream, and work under the id keeps what holds of them.
  have hsends : Transport.SendsUnder (service.correlationOf request r)
      (fun s => ∀ call ∈ s.2, call.1 = service.correlationOf request r)
      (relayedRequest service.home.settings request (service.correlationOf request r)
        request.body) (service.noting callOf).transport :=
    ht.noting (service.correlationOf_ne_empty request r) fun span s sent hb => hb.1
  have hparams' : Anonymous (service.noting callOf).home.settings.logParams := hparams
  have hwork := serve_under (r := r.mapDownstream fun s => (s, [])) hmethod hpath hparams' hsends
  exact hwork.downstream (by simp [Realm.mapDownstream])

/-- Without an id of its own an event is given that of the root, or a fresh one. -/
theorem correlationOf_of_none {r : Realm σ}
    (h : correlationId? service.home.settings request = none) :
    ((r.context service.home.root).id ≠ "" →
        service.correlationOf request r = (r.context service.home.root).id) ∧
      ((r.context service.home.root).id = "" →
        service.correlationOf request r = r.ids.mint.1 ∧
          Uuid.isVersion4 (service.correlationOf request r) = true) := by
  rw [correlationOf, h, Option.getD_none]
  refine ⟨fun hroot => ?_, fun hroot => ?_⟩
  · rw [Realm.issuedId, if_neg (by simpa using hroot)]
  · have hempty : (r.context service.home.root).id.isEmpty = true := by simpa using hroot
    exact ⟨by rw [Realm.issuedId, if_pos hempty], Realm.isVersion4_issuedId hempty⟩

/-- **One id.** Each event goes by one correlation id: the one that it brings along, or else that of
the root, or else a fresh one. Every context that is made for it has that id; every send is made
under it and tells it downstream, and so does the answer, unless the time for it is over; the answer
after a panic tells it in its body too; and every record that is left carries it. -/
theorem one_id_per_request (service : Service σ) {request : Http.Request}
    (hmethod : request.method = "POST") (hpath : request.path = eventsRoute)
    (hname : Http.isFieldName service.home.settings.transactionHeader = true)
    (hkind : Http.headerName service.home.settings.transactionHeader ≠ "content-type")
    (htenant : Http.headerName service.home.settings.transactionHeader ≠
      Http.headerName service.home.settings.tenantHeader)
    (hparams : Anonymous service.home.settings.logParams)
    (ht : Transport.Faithful service.transport) {r : Realm σ}
    (hvalue : Http.isFieldValue (service.correlationOf request r).toUTF8 = true) :
    ∃ id,
      ((∀ brought, request.headers.nonEmpty? service.home.settings.transactionHeader =
          some brought → id = brought) ∧
        (request.headers.nonEmpty? service.home.settings.transactionHeader = none →
          ((r.context service.home.root).id ≠ "" → id = (r.context service.home.root).id) ∧
          ((r.context service.home.root).id = "" →
            id = r.ids.mint.1 ∧ Uuid.isVersion4 id = true))) ∧
      (∀ c, r.contexts.size ≤ c → c < (service.serve none request r).2.contexts.size →
        ((service.serve none request r).2.context c).id = id) ∧
      (∀ call ∈ service.calls request r, call.1 = id ∧
        Entries.find? service.home.settings.transactionHeader call.2.headers = some id ∧
        ∀ header ∈ call.2.headers, Http.headerName header.1 =
          Http.headerName service.home.settings.transactionHeader → header.2 = id) ∧
      (∃ added, (service.serve none request r).2.journal.toList = r.journal.toList ++ added ∧
        ∀ e ∈ added, e.2.Carries id) ∧
      ∃ response, (service.serve none request r).1 = .returned response ∧
        ((service.served ⟨none, request, r⟩).1 ≠ .hung →
          response.headers.find? service.home.settings.transactionHeader = some id.toUTF8) ∧
        ∀ panic, (service.served ⟨none, request, r⟩).1 = .panicked panic →
          response.body = (Json.ofMembers [("error", .str "internal server error"),
            ("correlationId", .str id)]).render.toUTF8 := by
  have hid := service.correlationOf_ne_empty request r
  have hsends : Transport.SendsUnder (service.correlationOf request r) (fun _ => True)
      (relayedRequest service.home.settings request (service.correlationOf request r)
        request.body) service.transport := fun span s => ht _ hid span _ s
  have hwork := serve_under hmethod hpath hparams hsends
  refine ⟨service.correlationOf request r,
    ⟨fun brought h => (eq_correlationOf brought h).symm, correlationOf_of_none⟩,
    fun c hlo hhi => (hwork.bears c hlo hhi).1, fun call hcall => ?_, hwork.records,
    serve_correlated hmethod hpath hparams hsends hname hvalue⟩
  have hnamed := relayedHeaders_named request (service.correlationOf request r) hkind htenant
  refine ⟨service.calls_named hmethod hpath hparams ht r call hcall, ?_⟩
  rw [service.calls_eq hmethod hpath r call hcall, relayedRequest_shape]
  exact hnamed

/-- A service that tries twice, and logs the number of an order. -/
def ordering : Service Script :=
  .of ⟨0, { Settings.zero with
    endpoint := "http://down.test/", maxAttempts := 2, logParams := [("order", "order.id")] },
    "test"⟩ Script.send

/-- A realm whose root has a transport. What lies downstream rejects the first send; the second one
says so and panics. -/
def faltering : Realm Script :=
  let fault : Fault := ⟨some 2, none, some "line is down", some (.panic (.text "boom"))⟩
  ((Realm.start (.startingAt 0) (fun n => n) (fun _ => "trace")
    (.ofExchanges [.response 503 .empty] [fault])).addRoot .kept).2.setHandle 0 Key.httpTransport
      .transport

/-- An order with an id. -/
def order : Http.Request :=
  ⟨"POST", eventsRoute, "", .ofTexts [("x-b3-traceid", "order-7"), ("x-tenant-id", "acme")],
    "\x7b\"order\":\x7b\"id\":9\x7d\x7d".toUTF8, none⟩

theorem one_id_per_request_panicked :
    (ordering.served ⟨none, order, faltering⟩).1 = .panicked (.text "boom") ∧
      (∀ c, faltering.contexts.size ≤ c →
        c < (ordering.serve none order faltering).2.contexts.size →
          ((ordering.serve none order faltering).2.context c).id = "order-7") ∧
      (ordering.calls order faltering).length = 2 ∧
      (∀ call ∈ ordering.calls order faltering, call.1 = "order-7" ∧
        Entries.find? "X-B3-TraceId" call.2.headers = some "order-7") ∧
      (ordering.serve none order faltering).2.journal.toList.map (·.2.message) =
        ["retrying request", "line is down", "recovered from panic"] ∧
      (∀ e ∈ (ordering.serve none order faltering).2.journal.toList, e.2.Carries "order-7") ∧
      ∃ response, (ordering.serve none order faltering).1 = .returned response ∧
        response.headers.find? "X-B3-TraceId" = some "order-7".toUTF8 ∧
        response.body = (Json.ofMembers [("error", .str "internal server error"),
          ("correlationId", .str "order-7")]).render.toUTF8 := by
  have hmethod : order.method = "POST" := rfl
  have hpath : order.path = eventsRoute := rfl
  have hparams : Anonymous ordering.home.settings.logParams := by
    intro param hparam
    obtain rfl := List.mem_singleton.1 hparam
    decide
  have hpanicked : (ordering.served ⟨none, order, faltering⟩).1 =
      .panicked (.text "boom") := by decide +kernel
  have hsent : (ordering.calls order faltering).length = 2 := by decide +kernel
  have hmessages : (ordering.serve none order faltering).2.journal.toList.map (·.2.message) =
      ["retrying request", "line is down", "recovered from panic"] := by decide +kernel
  obtain ⟨id, ⟨hbrought, -⟩, hcontexts, hcalls, ⟨added, hadded, hcarry⟩, response, hresponse,
      hheader, hbody⟩ :=
    one_id_per_request ordering hmethod hpath (by decide +kernel) (by decide +kernel)
      (by decide +kernel) hparams Script.send_faithful (r := faltering) (by decide +kernel)
  obtain rfl := hbrought "order-7" (by decide +kernel)
  refine ⟨hpanicked, hcontexts, hsent, fun call hcall => ?_, hmessages, ?_, response, hresponse,
    hheader ?_, hbody _ hpanicked⟩
  · obtain ⟨hid, hfound, -⟩ := hcalls call hcall
    exact ⟨hid, hfound⟩
  · rw [hadded]
    exact hcarry
  · rw [hpanicked]
    simp

end Service
end EventRelay
