import EventRelay.Proofs.Delivery.Discretion
import EventRelay.Proofs.Service.Identity
import EventRelay.Proofs.Service.Watch

/-!
# What reaches the downstream

Of an event its body, its kind, its correlation id and its tenant go downstream, and nothing else.
Two events that agree in these are delivered alike and answered alike, whatever else they bring
along.

* `Http.Request.Resembles`: two requests that agree in what matters.
* `serve_agree`: they are answered alike, through any discreet transport.
* `calls_eq`: what the service sends for an event, through any transport.
* `influence_confined`: both together.
-/

namespace EventRelay

/-- Two requests with the same body, and the same first values of the headers that go along. -/
structure Http.Request.Resembles (settings : Settings) (request request' : Http.Request) :
    Prop where
  method_eq : request.method = request'.method
  path_eq : request.path = request'.path
  body_eq : request.body = request'.body
  bodyFault_eq : request.bodyFault = request'.bodyFault
  kind_eq : request.headers.find? "content-type" = request'.headers.find? "content-type"
  transaction_eq : request.headers.find? settings.transactionHeader =
    request'.headers.find? settings.transactionHeader
  tenant_eq : request.headers.find? settings.tenantHeader =
    request'.headers.find? settings.tenantHeader

namespace Service

variable {σ : Type}

/-! ## Alike requests in alike realms -/

section Agreement

variable {τ : Type} {view : σ → τ} {service : Service σ} {request request' : Http.Request}
  {r r' : Realm σ}

theorem correlationId?_congr {settings : Settings} (hq : request.Resembles settings request') :
    correlationId? settings request = correlationId? settings request' := by
  simp only [correlationId?, Http.Headers.nonEmpty?, Http.Headers.text?, hq.transaction_eq]

theorem readBody_congr {settings : Settings} (hq : request.Resembles settings request')
    (limit : Option Nat) : request.readBody limit = request'.readBody limit := by
  simp only [Http.Request.readBody, hq.body_eq, hq.bodyFault_eq]

theorem relayedRequest_congr {settings : Settings} (hq : request.Resembles settings request')
    (id : String) (payload : ByteArray) :
    relayedRequest settings request id payload = relayedRequest settings request' id payload := by
  simp only [relayedRequest, Http.Headers.text?, hq.kind_eq, hq.tenant_eq]

theorem openRequest_agree (hq : request.Resembles service.home.settings request')
    (h : Realm.Alike view r r') :
    Realm.Agree view (service.openRequest request r) (service.openRequest request' r') := by
  obtain ⟨hfst, hsnd⟩ := h.derive service.home.root
  unfold openRequest Instance.requestContext
  dsimp only
  rw [correlationId?_congr hq, hfst]
  refine ⟨rfl, Realm.Alike.of_outline_eq ?_ (Realm.setLogValue_outline ..)
    (Realm.setLogValue_outline ..)⟩
  cases correlationId? service.home.settings request' with
  | none => exact hsnd
  | some id => exact hsnd.setId _ id

theorem arrive_agree (hq : request.Resembles service.home.settings request')
    (h : Realm.Alike view r r') (parent : Option ContextId) :
    Realm.Agree view (service.arrive parent request r) (service.arrive parent request' r') := by
  obtain ⟨hfst, hsnd⟩ := h.openSpan (parent.getD service.home.root) SpanName.httpHandle
    SpanName.httpHandle (arrivalAttributes request) (arrivalAttributes request')
  unfold arrive
  dsimp only
  rw [correlationId?_congr hq, hfst]
  refine ⟨rfl, Realm.Alike.of_outline_eq ?_ (noteRequest_outline ..) (noteRequest_outline ..)⟩
  cases correlationId? service.home.settings request' with
  | none => exact hsnd
  | some id => exact hsnd.setId _ id

theorem settle_alike (h : Realm.Alike view r r') (span : ContextId) (payload : ByteArray)
    (exchange : Exchange) :
    Realm.Alike view (settle span payload exchange r) (settle span payload exchange r') := by
  unfold settle
  split
  · exact h.forget span payload
  · exact h

theorem forward_agree (ht : Transport.Discreet view service.transport)
    (hq : request.Resembles service.home.settings request') (h : Realm.Alike view r r')
    (span : ContextId) (payload : ByteArray) :
    Realm.Agree view (service.forward request span payload r)
      (service.forward request' span payload r') := by
  unfold forward
  dsimp only
  rw [relayedRequest_congr hq, h.id_eq span]
  have hsent : Realm.Agree view (service.courier.sendBefore service.deadline service.transport span
      (relayedRequest service.home.settings request' (r'.context span).id payload) r) _ :=
    Courier.sendBefore_agree ht span _ h
  generalize service.courier.sendBefore service.deadline service.transport span _ r = sent
    at hsent ⊢
  generalize service.courier.sendBefore service.deadline service.transport span _ r' = sent'
    at hsent ⊢
  obtain ⟨outcome, s⟩ := sent
  obtain ⟨outcome', s'⟩ := sent'
  obtain ⟨rfl, hs⟩ := hsent
  cases outcome with
  | returned x =>
    exact ⟨rfl, (settle_alike hs span payload x).of_outline_eq (logExchange_outline ..)
      (logExchange_outline ..)⟩
  | panicked panic => exact ⟨rfl, hs⟩
  | hung => exact ⟨rfl, hs⟩

theorem decide_agree (ht : Transport.Discreet view service.transport)
    (hq : request.Resembles service.home.settings request') (h : Realm.Alike view r r')
    (span : ContextId) :
    Realm.Agree view (service.decide request span r) (service.decide request' span r') := by
  unfold decide
  dsimp only
  rw [readBody_congr hq]
  cases request'.readBody (bodyLimit service.home.settings) with
  | error reason =>
    exact ⟨rfl, h.of_outline_eq (Realm.log_outline ..) (Realm.log_outline ..)⟩
  | ok payload =>
    have hnoted : Realm.Alike view (notePayload service.home.settings payload span r)
        (notePayload service.home.settings payload span r') :=
      h.of_outline_eq (notePayload_outline ..) (notePayload_outline ..)
    dsimp only
    by_cases hend : service.home.settings.endpoint.isEmpty = true
    · rw [if_pos hend, if_pos hend]
      exact ⟨rfl, hnoted.of_outline_eq (Realm.log_outline ..) (Realm.log_outline ..)⟩
    · rw [if_neg hend, if_neg hend]
      have hasked := hnoted.isDuplicate span payload
      generalize Realm.isDuplicate (notePayload _ payload span r) _ _ = asked at hasked ⊢
      generalize Realm.isDuplicate (notePayload _ payload span r') _ _ = asked' at hasked ⊢
      obtain ⟨hit, s⟩ := asked
      obtain ⟨hit', s'⟩ := asked'
      obtain ⟨rfl, hs⟩ := hasked
      cases hit with
      | true => exact ⟨rfl, hs.of_outline_eq (Realm.log_outline ..) (Realm.log_outline ..)⟩
      | false => exact forward_agree ht hq hs span payload

theorem ingest_agree (ht : Transport.Discreet view service.transport)
    (hq : request.Resembles service.home.settings request') (h : Realm.Alike view r r')
    (parent : Option ContextId) :
    Realm.Agree view (service.ingest parent request r) (service.ingest parent request' r') := by
  obtain ⟨hfst, hsnd⟩ := arrive_agree hq h parent
  have hdecided := decide_agree ht hq hsnd (service.arrive parent request' r').1
  unfold ingest
  dsimp only
  rw [hfst]
  generalize service.decide request _ _ = decided at hdecided ⊢
  generalize service.decide request' _ _ = decided' at hdecided ⊢
  obtain ⟨outcome, s⟩ := decided
  obtain ⟨outcome', s'⟩ := decided'
  obtain ⟨rfl, hs⟩ := hdecided
  cases outcome with
  | returned verdict =>
    refine ⟨?_, hs.of_outline_eq (by simp [depart]) (by simp [depart])⟩
    simp only [depart, hs.id_eq]
  | panicked panic => exact ⟨rfl, hs⟩
  | hung => exact ⟨rfl, hs⟩

/-- Alike events in alike realms are answered alike. -/
theorem serve_agree (ht : Transport.Discreet view service.transport)
    (hmethod : request.method = "POST") (hpath : request.path = eventsRoute)
    (hq : request.Resembles service.home.settings request') (h : Realm.Alike view r r')
    (parent : Option ContextId) :
    Realm.Agree view (service.serve parent request r) (service.serve parent request' r') := by
  obtain ⟨hfst, hsnd⟩ := openRequest_agree hq h
  have hdeadline : deadlineFrom r = deadlineFrom r' := by
    rw [deadlineFrom, deadlineFrom, h.systemMillis_eq]
  have hdiscreet : Transport.Discreet view (service.before (deadlineFrom r')).transport := ht
  have hingested := ingest_agree hdiscreet hq hsnd.enter
    (some (service.openRequest request' r').1)
  unfold serve containingPanics Realm.contain withTimeLimit
  dsimp only
  rw [deadlineFrom_openRequest, deadlineFrom_openRequest, hdeadline,
    routes_serve_eq hmethod hpath, routes_serve_eq (hq.method_eq ▸ hmethod) (hq.path_eq ▸ hpath),
    hfst, hq.method_eq]
  generalize (service.before (deadlineFrom r')).ingest _ request _ = ingested at hingested ⊢
  generalize (service.before (deadlineFrom r')).ingest _ request' _ = ingested' at hingested ⊢
  obtain ⟨outcome, s⟩ := ingested
  obtain ⟨outcome', s'⟩ := ingested'
  obtain ⟨rfl, hs⟩ := hingested
  cases outcome with
  | returned response => exact ⟨rfl, hs.leave⟩
  | panicked panic =>
    have hreported := hs.leave.reportPanic (service.openRequest request' r').1 panic
    refine ⟨?_, hreported⟩
    simp only [Outcome.map, hreported.id_eq]
  | hung =>
    have htimed : Realm.Alike view { s with systemMillis := deadlineFrom r' }
        { s' with systemMillis := deadlineFrom r' } :=
      hs.congr fun t => ({ t with systemMillis := deadlineFrom r' } : Realm τ)
    exact ⟨rfl, htimed.leave⟩

end Agreement

/-! ## What is sent -/

/-- The headers that go along with an event: its kind, its id, and its tenant if that can be
read. -/
def relayedHeaders (settings : Settings) (request : Http.Request) (id : String) :
    List (String × String) :=
  [("content-type", (request.headers.text? "content-type").getD "application/json"),
    (settings.transactionHeader, id)] ++
    ((request.headers.text? settings.tenantHeader).map (settings.tenantHeader, ·)).toList

theorem relayedRequest_shape (settings : Settings) (request : Http.Request) (id : String)
    (payload : ByteArray) : relayedRequest settings request id payload =
      ⟨settings.endpoint, payload, "POST", Entries.ofList (relayedHeaders settings request id),
        settings.endpointAuth⟩ := by
  unfold relayedRequest relayedHeaders
  cases request.headers.text? settings.tenantHeader <;> rfl

theorem eq_body_of_readBody {request : Http.Request} {limit : Option Nat} {payload : ByteArray}
    (h : request.readBody limit = .ok payload) : payload = request.body := by
  unfold Http.Request.readBody at h
  split at h
  · cases h
  · split at h
    · cases h
    · exact (Except.ok.inj h).symm

/-- Between the arrival of an event and its verdict what lies downstream is touched by one delivery
of the relayed request at most. -/
theorem decide_downstream (service : Service σ) (request : Http.Request) (span : ContextId)
    (r : Realm σ) :
    (service.decide request span r).2.downstream = r.downstream ∨
      ∃ s, s.downstream = r.downstream ∧ (service.decide request span r).2.downstream =
        (service.courier.sendBefore service.deadline service.transport span (relayedRequest
          service.home.settings request (r.context span).id request.body) s).2.downstream := by
  unfold decide
  dsimp only
  cases hread : request.readBody (bodyLimit service.home.settings) with
  | error reason => exact .inl (Realm.log_quiet _ _ _ _ _).downstream_eq
  | ok payload =>
    have hnote := notePayload_quiet service.home.settings payload span r
    obtain rfl := eq_body_of_readBody hread
    dsimp only
    split
    · exact .inl ((Realm.log_quiet _ _ _ _ _).downstream_eq.trans hnote.downstream_eq)
    · have hasked := (notePayload service.home.settings request.body span
        r).isDuplicate_touches span request.body
      generalize Realm.isDuplicate _ span request.body = asked at hasked ⊢
      obtain ⟨hit, s⟩ := asked
      obtain ⟨hcontexts, hdown⟩ := hasked
      have hdown := hdown.trans hnote.downstream_eq
      cases hit with
      | true => exact .inl ((Realm.log_quiet _ _ _ _ _).downstream_eq.trans hdown)
      | false =>
        refine .inr ⟨s, hdown, ?_⟩
        have hid : (s.context span).id = (r.context span).id := by
          rw [Realm.context, hcontexts]
          exact Realm.Alike.id_eq (notePayload_outline id _ _ _ _) span
        show (service.forward request span request.body s).2.downstream = _
        unfold forward
        dsimp only
        rw [hid]
        generalize service.courier.sendBefore service.deadline service.transport span _ s = sent
        obtain ⟨outcome, s'⟩ := sent
        cases outcome with
        | returned x =>
          show (logExchange span x (settle span request.body x s')).downstream = s'.downstream
          rw [(logExchange_quiet _ _ _).downstream_eq, settle]
          split
          · exact Realm.downstream_forget _ _ _
          · rfl
        | panicked panic => rfl
        | hung => rfl

/-- To answer an event, what lies downstream is touched by one delivery of the relayed request at
most. -/
theorem serve_downstream (service : Service σ) {request : Http.Request}
    (hmethod : request.method = "POST") (hpath : request.path = eventsRoute) (r : Realm σ) :
    (service.serve none request r).2.downstream = r.downstream ∨
      ∃ span s, s.downstream = r.downstream ∧ (service.serve none request r).2.downstream =
        (service.courier.sendBefore (some (deadlineFrom r)) service.transport span (relayedRequest
          service.home.settings request (service.correlationOf request r)
          request.body) s).2.downstream := by
  have hposted : (⟨none, request, r⟩ : Visit σ).request.method = "POST" := hmethod
  obtain ⟨response, r', he, -, hleft, -⟩ := service.serve_cases hposted hpath
  obtain ⟨span, s, hserved, -, hquiet, -, hid⟩ := service.served_eq request r
  rw [he]
  dsimp only
  rw [hleft, hserved, ← hid, ← hquiet.downstream_eq]
  rcases (service.before (deadlineFrom r)).decide_downstream request span s with h | ⟨t, ht, h⟩
  · exact .inl h
  · exact .inr ⟨_, t, ht, h⟩

/-- **Sends.** Every send for an event is of the same request, which the event determines. -/
theorem calls_eq (service : Service σ) {request : Http.Request}
    (hmethod : request.method = "POST") (hpath : request.path = eventsRoute) (r : Realm σ) :
    ∀ call ∈ service.calls request r, call.2 = relayedRequest service.home.settings request
      (service.correlationOf request r) request.body := by
  intro call hcall
  have hview : (service.noting callOf).correlationOf request (r.mapDownstream fun t => (t, [])) =
      service.correlationOf request r := rfl
  have hstart : (r.mapDownstream fun t => (t, ([] : List (String × OutboundRequest)))).downstream.2
      = [] := rfl
  unfold calls at hcall
  rcases (service.noting callOf).serve_downstream hmethod hpath
    (r.mapDownstream fun t => (t, [])) with h | ⟨span, s, hs, h⟩
  · rw [h, hstart] at hcall
    cases hcall
  · obtain ⟨more, hmore, hnotes⟩ := Courier.sendBefore_notes callOf service.courier
      (some (deadlineFrom r)) service.transport span (relayedRequest service.home.settings request
        (service.correlationOf request r) request.body) s
    rw [h, hview] at hcall
    rw [hs, hstart, List.nil_append] at hmore
    obtain ⟨c, t, sent, rfl⟩ := hnotes call (hmore ▸ hcall)
    rfl

/-- **Influence.** An event is delivered as one request: every send is of its body to the endpoint,
with its kind, its correlation id and its tenant in the headers and nothing else of it. Through a
discreet transport two events that agree in their bodies and in these headers are answered alike in
alike realms, by the same sends, and leave the same duplicate cache. -/
theorem influence_confined (service : Service σ) {request : Http.Request}
    (hmethod : request.method = "POST") (hpath : request.path = eventsRoute) (r : Realm σ) :
    (∀ {τ : Type} (view : σ → τ), Transport.Discreet view service.transport →
      ∀ request', request.Resembles service.home.settings request' →
      ∀ r', Realm.Alike view r r' →
        (service.serve none request r).1 = (service.serve none request' r').1 ∧
        service.calls request r = service.calls request' r' ∧
        (service.serve none request r).2.checker = (service.serve none request' r').2.checker ∧
        Realm.Alike view (service.serve none request r).2 (service.serve none request' r').2) ∧
    ∃ outbound, (∀ call ∈ service.calls request r, call.2 = outbound) ∧
      outbound.payload = request.body ∧ outbound.url = service.home.settings.endpoint ∧
      outbound.verb = "POST" ∧ outbound.auth = service.home.settings.endpointAuth ∧
      outbound.headers = Entries.ofList ([("content-type",
          (request.headers.text? "content-type").getD "application/json"),
        (service.home.settings.transactionHeader, service.correlationOf request r)] ++
        ((request.headers.text? service.home.settings.tenantHeader).map
          (service.home.settings.tenantHeader, ·)).toList) := by
  constructor
  · intro τ view ht request' hq r' h
    obtain ⟨hanswer, halike⟩ := serve_agree ht hmethod hpath hq h none
    have hnoting : Transport.Discreet (Prod.map view id) (service.noting callOf).transport := by
      refine Transport.Discreet.noting ht ?_
      intro span request s s' sent sent' hs hsent
      simp only [callOf, hs.id_eq span]
    have hstart : Realm.Alike (Prod.map view id)
        (r.mapDownstream fun t => (t, ([] : List (String × OutboundRequest))))
        (r'.mapDownstream fun t => (t, [])) :=
      h.congr (Realm.mapDownstream fun t => (t, []))
    obtain ⟨-, hnoted⟩ := serve_agree hnoting hmethod hpath hq hstart none
    have hcalls := congrArg Prod.snd hnoted.view_eq
    exact ⟨hanswer, hcalls, halike.checker_eq, halike⟩
  · refine ⟨_, service.calls_eq hmethod hpath r, ?_⟩
    rw [relayedRequest_shape]
    exact ⟨rfl, rfl, rfl, rfl, rfl⟩

/-- A service that tries three times. -/
def persistent : Service Script :=
  .of ⟨0, { Settings.zero with endpoint := "http://down.test/", maxAttempts := 3 }, "test"⟩
    Script.send

/-- A realm whose root has a transport; what lies downstream rejects the first send. -/
def rejecting : Realm Script :=
  ((Realm.start (.startingAt 0) (fun n => n) (fun _ => "")
    (.ofExchanges [.response 503 .empty, .response 200 .empty] [])).addRoot .kept).2.setHandle 0
      Key.httpTransport .transport

/-- An event with an id, a kind and a tenant. -/
def plain : Http.Request :=
  ⟨"POST", eventsRoute, "", .ofTexts [("content-type", "text/plain"), ("x-b3-traceid", "order-7"),
    ("x-tenant-id", "acme")], "p".toUTF8, none⟩

/-- The same event with more about it. -/
def adorned : Http.Request :=
  ⟨"POST", eventsRoute, "a=b", .ofTexts [("host", "relay.test"), ("x-tenant-id", "acme"),
    ("content-type", "text/plain"), ("x-partner-id", "globex"), ("x-b3-traceid", "order-7"),
    ("cookie", "secret"), ("x-b3-traceid", "other")], "p".toUTF8, none⟩

theorem influence_confined_adorned :
    Transport.Discreet Script.blind persistent.transport ∧
      plain.Resembles persistent.home.settings adorned ∧
      (persistent.serve none plain rejecting).1 = (persistent.serve none adorned rejecting).1 ∧
      persistent.calls adorned rejecting = persistent.calls plain rejecting ∧
      (persistent.calls plain rejecting).map Prod.fst = ["order-7", "order-7"] ∧
      ∃ outbound, (∀ call ∈ persistent.calls plain rejecting, call.2 = outbound) ∧
        outbound.headers = [("X-B3-TraceId", "order-7"), ("X-Tenant-Id", "acme"),
          ("content-type", "text/plain")] := by
  have hq : plain.Resembles persistent.home.settings adorned :=
    ⟨rfl, rfl, rfl, rfl, by decide +kernel, by decide +kernel, by decide +kernel⟩
  have hmethod : plain.method = "POST" := rfl
  have hpath : plain.path = eventsRoute := rfl
  have hsent : (persistent.calls plain rejecting).map Prod.fst = ["order-7", "order-7"] := by
    decide +kernel
  obtain ⟨hsame, outbound, hcalls, -, -, -, -, hheaders⟩ :=
    influence_confined persistent hmethod hpath rejecting
  obtain ⟨hanswer, hequal, -⟩ :=
    hsame Script.blind Script.send_discreet adorned hq rejecting (.refl _)
  refine ⟨Script.send_discreet, hq, hanswer, hequal.symm, hsent, outbound, hcalls, ?_⟩
  rw [hheaders]
  decide +kernel

end Service
end EventRelay
