import EventRelay.Proofs.Service.Observation
import EventRelay.Proofs.Service.Undelivered

/-!
# Spans are balanced

Whatever becomes of an event, its observer is told of one span for its handling and, inside of it,
of one span for each send; each is recorded and ended once, in the context in which it was started.

* `Observation.serve`: the whole service, whatever its observers do. `own_serve`: with the observers
  of this library it is the service.
* `decide_attempts`: what is noticed between arrival and departure is attempts.
* `Spanned`: the notices of an event that was answered.
* `ingest_spanned`: what the handler of events is noticed to do.
* `spans_balanced`: the same of the service, with and without what stands around the route.
-/

namespace EventRelay

open Service

variable {σ : Type}

/-! ## Attributes -/

/-- The attributes of an attempt tell the status of its exchange and, exactly if that has an error,
the family of the error. -/
theorem Courier.mem_exchangeAttributes (request : OutboundRequest) (x : Exchange) :
    (∀ status, (AttributeName.httpStatusCode, status) ∈ exchangeAttributes request x ↔
      status = toString x.status.toNat) ∧
    ∀ family, (AttributeName.errorType, family) ∈ exchangeAttributes request x ↔
      ∃ e, x.error = some e ∧ family = e.category.name := by
  unfold exchangeAttributes
  cases x.error <;> simp [AttributeName.httpUrl, AttributeName.httpStatusCode,
    AttributeName.errorType]

/-- The attributes of an event tell the status of its answer. -/
theorem Service.mem_departureAttributes (settings : Settings) (request : Http.Request)
    (response : Http.Response) (status : String) :
    (AttributeName.httpStatusCode, status) ∈ departureAttributes settings request response ↔
      status = toString response.status := by
  have harrival : (AttributeName.httpStatusCode, status) ∉ arrivalAttributes request := by
    unfold arrivalAttributes
    split <;> simp [AttributeName.httpMethod, AttributeName.httpRoute, AttributeName.httpHost,
      AttributeName.httpStatusCode]
  have htopic : AttributeName.httpStatusCode ≠ AttributeName.topic := by decide
  unfold departureAttributes
  dsimp only
  split <;> simp [harrival, htopic]

/-! ## Notices -/

namespace Notice

/-- Whether a notice is of a send. -/
def isSend : Notice → Bool
  | .sent .. => true
  | .told .. => false

/-- Whether a notice is of the start of a span with a name. -/
def starts (name : String) : Notice → Bool
  | .told _ (.started _ _ started _) => started = name
  | _ => false

end Notice

/-- There are as many sends in attempts as spans for them, and as many as attempts. -/
theorem Attempt.countP_notices (o : Observer) (parent : ContextId) (request : OutboundRequest)
    (attempts : List Attempt) :
    (attempts.flatMap (Attempt.notices o parent request)).countP Notice.isSend = attempts.length ∧
      (attempts.flatMap (Attempt.notices o parent request)).countP
        (Notice.starts SpanName.httpRequest) = attempts.length := by
  induction attempts with
  | nil => exact ⟨rfl, rfl⟩
  | cons a attempts ih =>
    have hone : (Attempt.notices o parent request a).countP Notice.isSend = 1 ∧
        (Attempt.notices o parent request a).countP (Notice.starts SpanName.httpRequest) = 1 :=
      ⟨rfl, rfl⟩
    rw [List.flatMap_cons, List.countP_append, List.countP_append, ih.1, ih.2, hone.1, hone.2,
      List.length_cons, Nat.add_comm]
    exact ⟨rfl, rfl⟩

/-- The notices of an event that was answered. Its span starts; each attempt starts a span derived
from that one, sends, is recorded and ends its span; then the answer is recorded and the span ends.
The attributes tell the status of the exchange or of the answer, and of an error if there is one. -/
structure Spanned (settings : Settings) (o : Observer) (parent : ContextId)
    (request : Http.Request) (response : Http.Response) (span : ContextId)
    (outbound : OutboundRequest) (attempts : List Attempt) (notices : List Notice)
    (lineage : ContextId → List ContextId) : Prop where
  notices_eq : ∃ duration, notices =
    .told o (.started parent span SpanName.httpHandle (arrivalAttributes request)) ::
      (attempts.flatMap (Attempt.notices o span outbound) ++
        [.told o (.recorded span MetricName.httpHandleDuration
            (departureAttributes settings request response) duration),
          .told o (.ended span (departureAttributes settings request response) none)])
  ordered : (span :: attempts.map Attempt.span).Pairwise (· < ·)
  span_derived : parent ∈ lineage span
  attempt_derived : ∀ a ∈ attempts, span ∈ lineage a.span
  status : ∀ status, (AttributeName.httpStatusCode, status) ∈
    departureAttributes settings request response ↔ status = toString response.status
  attempt_status : ∀ a ∈ attempts, ∀ status, (AttributeName.httpStatusCode, status) ∈
    Courier.exchangeAttributes outbound a.exchange ↔ status = toString a.exchange.status.toNat
  attempt_error : ∀ a ∈ attempts, ∀ family, (AttributeName.errorType, family) ∈
    Courier.exchangeAttributes outbound a.exchange ↔
      ∃ e, a.exchange.error = some e ∧ family = e.category.name
  sends_eq : notices.countP Notice.isSend = attempts.length
  starts_eq : notices.countP (Notice.starts SpanName.httpRequest) =
    notices.countP Notice.isSend

namespace Observation

variable {obs : Observation σ} {service : Service σ} {o : Observer} {request : Http.Request}
  {span : ContextId}

/-! ## The handler -/

/-- A delivery on behalf of an event is attempts. -/
theorem forward_attempts (hobs : obs.Derives o) (ht : service.transport.Keeps)
    {payload : ByteArray} {r s : Realm (σ × List Notice)} {verdict : Verdict}
    (hspan : span < r.contexts.size ∧ r.observerOf span = o)
    (h : obs.noting.forward (service.noting Notice.ofSend) request span payload r =
      (.returned verdict, s)) :
    ∃ outbound attempts, Attempts o span outbound attempts r s := by
  unfold forward at h
  dsimp only [Service.noting] at h
  generalize hsend : obs.noting.sendBefore service.courier service.deadline
    (service.transport.noting Notice.ofSend) span _ r = sent at h
  obtain ⟨outcome, s₁⟩ := sent
  cases outcome with
  | panicked panic => cases h
  | hung => cases h
  | returned x =>
    obtain ⟨attempts, hattempts⟩ := sendBefore_attempts hobs ht hspan hsend
    have hsettle : Realm.Idles s₁ (settle span payload x s₁) := by
      unfold settle
      split
      · exact s₁.forget_idles span payload
      · exact .refl s₁
    have hlog := logExchange_calm span x (settle span payload x s₁)
    cases h
    exact ⟨_, attempts, hattempts.idles (hsettle.trans hlog.idles)⟩

/-- What is noticed between arrival and departure of an event is attempts. -/
theorem decide_attempts (hobs : obs.Derives o) (ht : service.transport.Keeps)
    {r s : Realm (σ × List Notice)} {verdict : Verdict}
    (hspan : span < r.contexts.size ∧ r.observerOf span = o)
    (h : obs.noting.decide (service.noting Notice.ofSend) request span r =
      (.returned verdict, s)) :
    ∃ outbound attempts, Attempts o span outbound attempts r s := by
  -- Without a delivery there is no request, so that any will do.
  have hnone : ∀ {s' : Realm (σ × List Notice)}, Realm.Idles r s' →
      ∃ outbound attempts, Attempts o span outbound attempts r s' :=
    fun hidles => ⟨.post "" .empty, [], .of_idles hidles⟩
  unfold decide at h
  dsimp only [Service.noting] at h
  split at h
  · cases h
    exact hnone (r.log_calm ..).idles
  · next payload hread =>
    have hnoted := (notePayload_calm service.home.settings payload span r).idles
    generalize notePayload service.home.settings payload span r = s₁ at h hnoted
    split at h
    · cases h
      exact hnone (hnoted.trans (s₁.log_calm ..).idles)
    · have hasked := hnoted.trans (s₁.isDuplicate_idles span payload)
      generalize s₁.isDuplicate span payload = asked at h hasked
      obtain ⟨hit, s₂⟩ := asked
      cases hit with
      | true =>
        have hlog := s₂.log_calm span .info "duplicate event suppressed" []
        cases h
        exact hnone (hasked.trans hlog.idles)
      | false =>
        obtain ⟨outbound, attempts, hattempts⟩ := forward_attempts hobs ht (hasked.still hspan) h
        exact ⟨outbound, attempts, hattempts.after hasked⟩

/-- An arrival starts the span of its event. -/
theorem arrive_begets (hobs : obs.Derives o) (request : Http.Request) {parent : Option ContextId}
    {r : Realm (σ × List Notice)} (hparent : parent.getD service.home.root < r.contexts.size ∧
      r.observerOf (parent.getD service.home.root) = o) :
    ∃ span s, obs.noting.arrive (service.noting Notice.ofSend) parent request r = (span, s) ∧
      r.Begets (parent.getD service.home.root) span s ∧
      s.downstream.2 = r.downstream.2 ++ [.told o (.started (parent.getD service.home.root) span
        SpanName.httpHandle (arrivalAttributes request))] := by
  have hstart := hobs.noting.start (parent.getD service.home.root) SpanName.httpHandle
    (arrivalAttributes request) r hparent.1 hparent.2
  have hstarted : (obs.noting.start o (parent.getD service.home.root) SpanName.httpHandle
      (arrivalAttributes request) r).2.downstream.2 = r.downstream.2 ++
        [.told o (.started (parent.getD service.home.root) (obs.noting.start o
          (parent.getD service.home.root) SpanName.httpHandle (arrivalAttributes request) r).1
            SpanName.httpHandle (arrivalAttributes request))] := rfl
  unfold arrive
  rw [show (service.noting Notice.ofSend).home = service.home from rfl, hparent.2]
  generalize obs.noting.start o _ _ _ r = started at hstart hstarted ⊢
  obtain ⟨span, s⟩ := started
  dsimp only at hstart hstarted ⊢
  have hnamed : ∀ named : Realm (σ × List Notice), Realm.Calm s named →
      ∃ span' s', (span, noteRequest service.home.settings request span named) = (span', s') ∧
        r.Begets (parent.getD service.home.root) span' s' ∧
        s'.downstream.2 = r.downstream.2 ++ [.told o (.started (parent.getD service.home.root) span'
          SpanName.httpHandle (arrivalAttributes request))] := by
    intro named hcalm
    have hnoted := hcalm.trans (noteRequest_calm service.home.settings request span named)
    exact ⟨span, _, rfl, hstart.still hnoted.keeps,
      (congrArg Prod.snd hnoted.downstream_eq).trans hstarted⟩
  cases correlationId? service.home.settings request with
  | some id => exact hnamed _ (s.setId_calm span id)
  | none => exact hnamed s (.refl s)

/-- A departure records the answer and ends the span of its event. -/
theorem depart_notices (hobs : obs.Derives o) (service : Service σ) (request : Http.Request)
    {r : Realm (σ × List Notice)} (hspan : r.observerOf span = o) (started : UInt64)
    (response : Http.Response) :
    ∃ duration answer s, obs.noting.depart (service.noting Notice.ofSend) request span started
        response r = (answer, s) ∧ Realm.Keeps r s ∧ s.downstream.2 = r.downstream.2 ++
      [.told o (.recorded span MetricName.httpHandleDuration
          (departureAttributes service.home.settings request answer) duration),
        .told o (.ended span (departureAttributes service.home.settings request answer)
          none)] := by
  unfold depart
  rw [hspan]
  refine ⟨Courier.metricOf (r.clock.millisSince started), _, _, rfl,
    (hobs.noting.record ..).trans (hobs.noting.finish ..), ?_⟩
  show r.downstream.2 ++ [_] ++ [_] = _
  rw [List.append_assoc]
  rfl

/-- What the handler of events is noticed to do. -/
theorem ingest_spanned (hobs : obs.Derives o) (ht : service.transport.Keeps)
    {parent : Option ContextId} {r s : Realm (σ × List Notice)} {response : Http.Response}
    (hparent : parent.getD service.home.root < r.contexts.size ∧
      r.observerOf (parent.getD service.home.root) = o)
    (h : obs.noting.ingest (service.noting Notice.ofSend) parent request r =
      (.returned response, s)) :
    Realm.Keeps r s ∧ ∃ notices span outbound attempts,
      s.downstream.2 = r.downstream.2 ++ notices ∧
      Spanned service.home.settings o (parent.getD service.home.root) request response span
        outbound attempts notices s.lineage := by
  obtain ⟨span, s₁, harrive, hbegets, harrived⟩ := arrive_begets hobs request hparent
  unfold ingest at h
  dsimp only at h
  rw [harrive] at h
  dsimp only at h
  generalize hdecide : obs.noting.decide (service.noting Notice.ofSend) request span s₁ = decided
    at h
  obtain ⟨outcome, s₂⟩ := decided
  cases outcome with
  | panicked panic => cases h
  | hung => cases h
  | returned verdict =>
    have hspan := And.intro hbegets.span_lt (hbegets.observer_span.trans hparent.2)
    obtain ⟨outbound, attempts, hattempts⟩ := decide_attempts hobs ht hspan hdecide
    obtain ⟨duration, answer, s₃, hdepart, hkeeps, hdeparted⟩ := depart_notices hobs service
      request (hattempts.toKeeps.still hspan).2 r.clock.elapsed verdict.response
    dsimp only at h
    rw [hdepart] at h
    cases h
    have hcount := Attempt.countP_notices o span outbound attempts
    refine ⟨(hbegets.toKeeps.trans hattempts.toKeeps).trans hkeeps, _, span, outbound, attempts,
      ?_, ⟨duration, rfl⟩, ?_, ?_, ?_, ?_, ?_, ?_, ?_, ?_⟩
    · rw [hdeparted, hattempts.notices_eq, harrived]
      simp only [List.append_assoc, List.cons_append, List.nil_append]
    · refine List.pairwise_cons.2 ⟨fun i hi => ?_, hattempts.ordered⟩
      obtain ⟨a, ha, rfl⟩ := List.mem_map.1 hi
      exact Nat.lt_of_lt_of_le hbegets.span_lt (hattempts.le_span a ha)
    · exact ((hbegets.still hattempts.toKeeps).still hkeeps).mem_lineage
    · intro a ha
      rw [hkeeps.lineage_eq a.span (hattempts.span_lt a ha)]
      exact hattempts.mem_lineage a ha
    · exact mem_departureAttributes service.home.settings request answer
    · exact fun a _ => (Courier.mem_exchangeAttributes outbound a.exchange).1
    · exact fun a _ => (Courier.mem_exchangeAttributes outbound a.exchange).2
    · simp [Notice.isSend, hcount.1]
    · have hother : SpanName.httpHandle ≠ SpanName.httpRequest := by decide
      simp [Notice.isSend, Notice.starts, hcount.1, hcount.2, hother]

/-! ## The whole service -/

/-- The routes of the service. -/
def routes (obs : Observation σ) (service : Service σ) : RouteTable σ :=
  [("/health", .read service.health), ("/live", .read service.liveness),
    (eventsRoute, .post (obs.ingest service))]

/-- Answers a request. -/
def serve (obs : Observation σ) (service : Service σ) : Handler σ :=
  service.containingPanics
    (withTimeLimit fun deadline => (obs.routes (service.before deadline)).serve)

/-- With the observers of this library the service is the service. -/
theorem own_serve (service : Service σ) : own.serve service = service.serve := by
  have hroutes : ∀ service : Service σ, own.routes service = service.routes := by
    intro service
    have hingest : own.ingest service = service.ingest := by
      funext parent request r
      exact own_ingest service parent request r
    unfold routes
    rw [hingest]
    rfl
  unfold serve
  simp only [hroutes]
  rfl

/-- What is noticed of the handling of an event. -/
def handlerNotices (obs : Observation σ) (service : Service σ) (parent : Option ContextId)
    (request : Http.Request) (r : Realm σ) : List Notice :=
  (obs.noting.ingest (service.noting Notice.ofSend) parent request
    (r.mapDownstream fun s => (s, []))).2.downstream.2

/-- What is noticed of the service when it answers a request. -/
def notices (obs : Observation σ) (service : Service σ) (request : Http.Request) (r : Realm σ) :
    List Notice :=
  (obs.noting.serve (service.noting Notice.ofSend) none request
    (r.mapDownstream fun s => (s, []))).2.downstream.2

/-- Who notices the handling of an event changes nothing. -/
theorem ingest_noting (service : Service σ) (parent : Option ContextId) (request : Http.Request)
    (r : Realm σ) : obs.ingest service parent request r =
      ((obs.noting.ingest (service.noting Notice.ofSend) parent request
          (r.mapDownstream fun s => (s, []))).1,
        (obs.noting.ingest (service.noting Notice.ofSend) parent request
          (r.mapDownstream fun s => (s, []))).2.mapDownstream Prod.fst) :=
  ingest_commutes (service.noting Notice.ofSend) obs.noting_commutes
    (service.transport.noting_commutes Notice.ofSend) parent (r.mapDownstream fun s => (s, []))

/-- An event that its handler answers is so answered by the service. -/
theorem serve_of_returned (hmethod : request.method = "POST") (hpath : request.path = eventsRoute)
    {parent : Option ContextId} {r r' : Realm σ} {response : Http.Response}
    (h : obs.ingest (service.before (deadlineFrom r)) (some r.contexts.size) request
      (service.openRequest request r).2.enter = (.returned response, r')) :
    obs.serve service parent request r = (.returned response.withLength, r'.leave) := by
  have hroute : (obs.routes (service.before (deadlineFrom r))).lookup request.path =
      some (.post (obs.ingest (service.before (deadlineFrom r)))) := by
    rw [hpath]
    rfl
  unfold serve containingPanics Realm.contain withTimeLimit
  dsimp only
  rw [service.openRequest_fst, deadlineFrom_openRequest,
    RouteTable.serve_eq_of_post hmethod hroute, h]
  rfl

/-- What is noticed of the handler of events, when it answers, is balanced. -/
theorem handlerNotices_spanned (hobs : obs.Derives o) (ht : service.transport.Keeps)
    {parent : Option ContextId} {r r' : Realm σ} {response : Http.Response}
    (h : obs.ingest service parent request r = (.returned response, r'))
    (hparent : parent.getD service.home.root < r.contexts.size ∧
      r.observerOf (parent.getD service.home.root) = o) :
    Realm.Keeps r r' ∧ ∃ span outbound attempts,
      Spanned service.home.settings o (parent.getD service.home.root) request response span
        outbound attempts (obs.handlerNotices service parent request r) r'.lineage := by
  rw [ingest_noting] at h
  unfold handlerNotices
  generalize hnoted : obs.noting.ingest (service.noting Notice.ofSend) parent request
    (r.mapDownstream fun s => (s, [])) = noted at h ⊢
  obtain ⟨outcome, s⟩ := noted
  cases h
  obtain ⟨hkeeps, notices, span, outbound, attempts, hnotices, hspanned⟩ :=
    ingest_spanned hobs ht hparent hnoted
  rw [show s.downstream.2 = notices from hnotices]
  exact ⟨⟨hkeeps.size_le, hkeeps.lineage_eq, hkeeps.observer_eq⟩, span, outbound, attempts,
    hspanned⟩

/-- When its handler answers an event, nothing else is noticed of the service. -/
theorem notices_eq (hmethod : request.method = "POST") (hpath : request.path = eventsRoute)
    {r r' : Realm σ} {response : Http.Response}
    (h : obs.ingest (service.before (deadlineFrom r)) (some r.contexts.size) request
      (service.openRequest request r).2.enter = (.returned response, r')) :
    obs.notices service request r = obs.handlerNotices (service.before (deadlineFrom r))
      (some r.contexts.size) request (service.openRequest request r).2.enter := by
  rw [ingest_noting] at h
  unfold notices handlerNotices
  generalize hnoted : obs.noting.ingest ((service.before (deadlineFrom r)).noting Notice.ofSend)
    (some r.contexts.size) request
    ((service.openRequest request r).2.enter.mapDownstream fun s => (s, [])) = noted at h ⊢
  obtain ⟨outcome, s⟩ := noted
  cases h
  have hopened : (service.noting Notice.ofSend).openRequest request
      (r.mapDownstream fun s => (s, [])) = _ := service.openRequest_mapDownstream _ _ request r
  rw [serve_of_returned hmethod hpath (by rw [hopened]; exact hnoted)]
  rfl

/-- The context of a request is derived from the root and has its observer. -/
theorem openRequest_begets (service : Service σ) (request : Http.Request) {r : Realm σ}
    (hroot : service.home.root < r.contexts.size) :
    r.Begets service.home.root r.contexts.size (service.openRequest request r).2 := by
  obtain ⟨fresh, hderived⟩ := r.context_derive service.home.root
  have hkeeps := (Realm.Calm.of_quiet (r.derive_quiet service.home.root)
    (r.derive_ages hroot)).keeps
  have hbegets : r.Begets service.home.root r.contexts.size (r.derive service.home.root).2 := by
    refine ⟨hkeeps, Nat.le_refl _, ?_, ?_, ?_⟩
    · rw [r.size_derive]
      exact Nat.lt_succ_self _
    · rw [Realm.lineage, hderived]
      exact List.mem_cons_self
    · rw [Realm.observerOf, hderived]
      rfl
  unfold openRequest Instance.requestContext
  dsimp only
  refine (hbegets.still ?_).still (Realm.setLogValue_calm _ _ _ _).keeps
  split
  · exact (Realm.setId_calm _ _ _).keeps
  · exact .refl _

/-- **Balanced spans.** Whatever becomes of an event that is answered, and whoever is told of spans
in contexts of their own: the observer of the root is told that the span of the event starts, then
of each send that its span starts, how long it took and that it ends, and then how long the event
took and that its span ends. Each call is made in the context that the start returned, with the
status, and with an error if there is one; each attempt is derived from the span of the event, and
there are as many of their spans as sends. It is so under the root and under the context that the
service makes for a request. -/
theorem spans_balanced (obs : Observation σ) (service : Service σ) {o : Observer}
    (hobs : obs.Derives o) (ht : service.transport.Keeps) {request : Http.Request}
    (hmethod : request.method = "POST") (hpath : request.path = eventsRoute) {r : Realm σ}
    (hroot : service.home.root < r.contexts.size) (ho : r.observerOf service.home.root = o) :
    (∀ response r', obs.ingest service none request r = (.returned response, r') →
      ∃ span outbound attempts, Spanned service.home.settings o service.home.root request response
        span outbound attempts (obs.handlerNotices service none request r) r'.lineage) ∧
    ∀ response r', obs.ingest (service.before (deadlineFrom r)) (some r.contexts.size) request
        (service.openRequest request r).2.enter = (.returned response, r') →
      obs.serve service none request r = (.returned response.withLength, r'.leave) ∧
      response.withLength.status = response.status ∧
      service.home.root ∈ r'.leave.lineage r.contexts.size ∧
      ∃ span outbound attempts, Spanned service.home.settings o r.contexts.size request response
        span outbound attempts (obs.notices service request r) r'.leave.lineage := by
  refine ⟨fun response r' h => ?_, fun response r' h => ?_⟩
  · obtain ⟨-, hspanned⟩ := handlerNotices_spanned hobs ht h ⟨hroot, ho⟩
    exact hspanned
  · have hbegets := openRequest_begets service request hroot
    have hsends : (service.before (deadlineFrom r)).transport.Keeps := ht
    obtain ⟨hkeeps, hspanned⟩ := handlerNotices_spanned hobs hsends h
      ⟨hbegets.span_lt, hbegets.observer_span.trans ho⟩
    refine ⟨serve_of_returned hmethod hpath h, (status_withLength response).1,
      (hbegets.still ?_).mem_lineage, ?_⟩
    · exact ⟨hkeeps.size_le, hkeeps.lineage_eq, hkeeps.observer_eq⟩
    · rw [notices_eq hmethod hpath h]
      exact hspanned

/-- A service that tries twice. -/
def trying : Service Script :=
  .of ⟨0, { Settings.zero with endpoint := "http://down.test/", maxAttempts := 2 }, "test"⟩
    Script.send

/-- A realm whose root has an observer that logs. What lies downstream rejects the first send and
is out of reach at the second. -/
def observed : Realm Script :=
  let exchanges : List Exchange := [.response 503 .empty, .failed (.timeout 10)]
  Realm.setHandle { accepting [] with downstream := Script.ofExchanges exchanges [] } 0 Key.observer
    (.observer (.tracing .shared))

theorem spans_balanced_retried :
    observed.observerOf trying.home.root = .tracing .shared ∧
      ∃ response r', own.serve trying none (posted "p") observed =
          (.returned response.withLength, r') ∧ response.status = 502 ∧
        ∃ span outbound attempts, attempts.length = 2 ∧
          Spanned trying.home.settings (.tracing .shared) 1 (posted "p") response span outbound
            attempts (own.notices trying (posted "p") observed) r'.lineage := by
  have hroot : trying.home.root < observed.contexts.size := by decide
  have ho : observed.observerOf trying.home.root = .tracing .shared := by decide
  have ht : trying.transport.Keeps := Script.send_keeps
  have hsends : (own.notices trying (posted "p") observed).countP Notice.isSend = 2 := by
    decide +kernel
  have hstatus : (own.ingest (trying.before (deadlineFrom observed)) (some 1) (posted "p")
      (trying.openRequest (posted "p") observed).2.enter).1.map (·.status) = .returned 502 := by
    decide +kernel
  have hmethod : (posted "p").method = "POST" := rfl
  have hpath : (posted "p").path = eventsRoute := rfl
  have hbalanced := (spans_balanced own trying (own_derives _) ht hmethod hpath hroot ho).2
  rw [show observed.contexts.size = 1 from rfl] at hbalanced
  generalize own.ingest (trying.before (deadlineFrom observed)) (some 1) (posted "p")
    (trying.openRequest (posted "p") observed).2.enter = ingested at hstatus hbalanced
  obtain ⟨outcome, s⟩ := ingested
  cases outcome with
  | panicked panic => cases hstatus
  | hung => cases hstatus
  | returned response =>
    obtain ⟨hserve, -, -, span, outbound, attempts, hspanned⟩ := hbalanced response s rfl
    exact ⟨ho, response, _, hserve, Outcome.returned.inj hstatus, span, outbound, attempts,
      hspanned.sends_eq.symm.trans hsends, hspanned⟩

end Observation
end EventRelay
