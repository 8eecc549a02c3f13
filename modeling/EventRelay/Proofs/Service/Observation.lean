import EventRelay.Proofs.Delivery.Observation
import EventRelay.Service.Guard

/-!
# The service and observers of any kind

The service takes in an event in a span of its own, of whose start and end an observer is told. Here
its stages are given for observers of any kind, of which those of this library are one.

* `Observation.ingest`: the handler of events, whatever its observers do, with its stages
  `Observation.arrive`, `Observation.forward`, `Observation.decide` and `Observation.depart`.
* `own_ingest`: with the observers of this library it is the handler.
* `ingest_commutes`: it does the same under another view of what lies downstream.
-/

namespace EventRelay

namespace Service

variable {σ τ β : Type}

/-- The same service with another transport. -/
def via (service : Service σ) (t : Transport τ) : Service τ :=
  ⟨service.home, service.courier, t, service.deadline⟩

/-- A service of whose sends notes are taken. -/
def noting (note : ContextId → OutboundRequest → Realm σ → Outcome Exchange × Realm σ → β)
    (service : Service σ) : Service (σ × List β) :=
  ⟨service.home, service.courier, service.transport.noting note, service.deadline⟩

/-! ## What is recorded of a request, under another view of what lies downstream -/

variable (f : σ → τ)

@[simp] theorem noteIdentity_mapDownstream (span : ContextId) (name text : String)
    (r : Realm σ) : noteIdentity span name text (r.mapDownstream f) =
      (noteIdentity span name text r).mapDownstream f := by
  unfold noteIdentity
  split <;> simp

@[simp] theorem noteRequest_mapDownstream (settings : Settings) (request : Http.Request)
    (span : ContextId) (r : Realm σ) : noteRequest settings request span (r.mapDownstream f) =
      (noteRequest settings request span r).mapDownstream f := by
  simp [noteRequest]

@[simp] theorem notePayload_mapDownstream (settings : Settings) (payload : ByteArray)
    (span : ContextId) (r : Realm σ) : notePayload settings payload span (r.mapDownstream f) =
      (notePayload settings payload span r).mapDownstream f := by
  have hfold : ∀ (fields : List (String × String)) (s : Realm σ),
      fields.foldl (fun s field => s.setLogValue span field.1 (.str field.2))
          (s.mapDownstream f) =
        (fields.foldl (fun s field => s.setLogValue span field.1 (.str field.2)) s).mapDownstream
          f := by
    intro fields
    induction fields with
    | nil => exact fun s => rfl
    | cons field fields ih => exact fun s => ih (s.setLogValue span field.1 (.str field.2))
  unfold notePayload
  dsimp only
  rw [hfold]
  split
  · simp
  · rfl

@[simp] theorem settle_mapDownstream (span : ContextId) (payload : ByteArray)
    (exchange : Exchange) (r : Realm σ) : settle span payload exchange (r.mapDownstream f) =
      (settle span payload exchange r).mapDownstream f := by
  unfold settle
  split <;> simp

@[simp] theorem logExchange_mapDownstream (span : ContextId) (exchange : Exchange)
    (r : Realm σ) : logExchange span exchange (r.mapDownstream f) =
      (logExchange span exchange r).mapDownstream f := by
  unfold logExchange
  split
  · simp
  · split <;> simp

theorem deadlineFrom_mapDownstream (r : Realm σ) :
    deadlineFrom (r.mapDownstream f) = deadlineFrom r := rfl

theorem openRequest_mapDownstream (service : Service σ) (t : Transport τ)
    (request : Http.Request) (r : Realm σ) :
    (service.via t).openRequest request (r.mapDownstream f) =
      ((service.openRequest request r).1, (service.openRequest request r).2.mapDownstream f) := by
  simp only [openRequest, Instance.requestContext, Realm.derive_mapDownstream, via]
  split <;> simp

end Service

namespace Observation

open Service

variable {σ τ : Type}

/-! ## The stages -/

/-- Starts the span of a request and records the request there. -/
def arrive (obs : Observation σ) (service : Service σ) (parent : Option ContextId)
    (request : Http.Request) (r : Realm σ) : ContextId × Realm σ :=
  let settings := service.home.settings
  let (span, r) := obs.start (r.observerOf (parent.getD service.home.root))
    (parent.getD service.home.root) SpanName.httpHandle (arrivalAttributes request) r
  let r := match correlationId? settings request with
    | some id => r.setId span id
    | none => r
  (span, noteRequest settings request span r)

/-- Delivers a payload, and says what came of it. -/
def forward (obs : Observation σ) (service : Service σ) (request : Http.Request)
    (span : ContextId) (payload : ByteArray) (r : Realm σ) : Outcome Verdict × Realm σ :=
  let outbound := relayedRequest service.home.settings request (r.context span).id payload
  match obs.sendBefore service.courier service.deadline service.transport span outbound r with
  | (.returned exchange, r) =>
    (.returned (.forwarded exchange), logExchange span exchange (settle span payload exchange r))
  | (.panicked payload, r) => (.panicked payload, r)
  | (.hung, r) => (.hung, r)

/-- The stages from the body to the verdict. -/
def decide (obs : Observation σ) (service : Service σ) (request : Http.Request)
    (span : ContextId) (r : Realm σ) : Outcome Verdict × Realm σ :=
  let settings := service.home.settings
  match request.readBody (bodyLimit settings) with
  | .error reason =>
    (.returned .unreadable, r.log span .warn "payload rejected"
      [("limit", toString settings.maxMessageSize.toNat), ("reason", reason)])
  | .ok payload =>
    let r := notePayload settings payload span r
    if settings.endpoint.isEmpty then
      (.returned .noEndpoint, r.log span .error "no endpoint configured" [])
    else
      match r.isDuplicate span payload with
      | (true, r) => (.returned .duplicate, r.log span .info "duplicate event suppressed" [])
      | (false, r) => obs.forward service request span payload r

/-- Ends the span of a request with its answer. -/
def depart (obs : Observation σ) (service : Service σ) (request : Http.Request)
    (span : ContextId) (started : UInt64) (response : Http.Response) (r : Realm σ) :
    Http.Response × Realm σ :=
  let settings := service.home.settings
  let response := response.withCorrelation settings.transactionHeader (r.context span).id
  let attributes := departureAttributes settings request response
  let observer := r.observerOf span
  let r := obs.record observer span MetricName.httpHandleDuration attributes
    (Courier.metricOf (r.clock.millisSince started)) r
  (response, obs.finish observer span attributes none r)

/-- Takes in an event, under the context of its request or else under the root. -/
def ingest (obs : Observation σ) (service : Service σ) : Handler σ := fun parent request r =>
  let started := r.clock.elapsed
  let (span, r) := obs.arrive service parent request r
  match obs.decide service request span r with
  | (.returned verdict, r) =>
    let (response, r) := obs.depart service request span started verdict.response r
    (.returned response, r)
  | (.panicked payload, r) => (.panicked payload, r)
  | (.hung, r) => (.hung, r)

/-! ## The observers of this library -/

section Own

variable (service : Service σ) (parent : Option ContextId) (request : Http.Request)
  (span : ContextId)

theorem own_forward (payload : ByteArray) (r : Realm σ) :
    own.forward service request span payload r = service.forward request span payload r := by
  rw [forward, own_sendBefore]
  rfl

theorem own_decide (r : Realm σ) :
    own.decide service request span r = service.decide request span r := by
  simp only [decide, own_forward]
  rfl

/-- **The library.** With the observers of this library the handler is the handler of events. -/
theorem own_ingest (r : Realm σ) :
    own.ingest service parent request r = service.ingest parent request r := by
  simp only [ingest, own_decide]
  rfl

end Own

/-! ## Another view of what lies downstream -/

section Views

variable {f : σ → τ} {obs : Observation σ} {obs' : Observation τ} {service : Service σ}
  {t : Transport τ} {request : Http.Request}

theorem arrive_commutes (hobs : obs.Commutes f obs') (parent : Option ContextId) (r : Realm σ) :
    obs'.arrive (service.via t) parent request (r.mapDownstream f) =
      ((obs.arrive service parent request r).1,
        (obs.arrive service parent request r).2.mapDownstream f) := by
  simp only [arrive, via, Realm.observerOf_mapDownstream, hobs.start]
  split <;> simp

theorem forward_commutes (hobs : obs.Commutes f obs') (ht : service.transport.Commutes f t)
    (span : ContextId) (payload : ByteArray) (r : Realm σ) :
    obs'.forward (service.via t) request span payload (r.mapDownstream f) =
      ((obs.forward service request span payload r).1,
        (obs.forward service request span payload r).2.mapDownstream f) := by
  unfold forward
  dsimp only [via]
  rw [Realm.context_mapDownstream, sendBefore_commutes hobs ht]
  generalize obs.sendBefore service.courier service.deadline service.transport span _ r = sent
  obtain ⟨outcome, s⟩ := sent
  cases outcome with
  | returned x => simp
  | panicked panic => rfl
  | hung => rfl

theorem decide_commutes (hobs : obs.Commutes f obs') (ht : service.transport.Commutes f t)
    (span : ContextId) (r : Realm σ) :
    obs'.decide (service.via t) request span (r.mapDownstream f) =
      ((obs.decide service request span r).1,
        (obs.decide service request span r).2.mapDownstream f) := by
  unfold decide
  rw [show (service.via t).home = service.home from rfl]
  dsimp only
  cases request.readBody (bodyLimit service.home.settings) with
  | error reason => simp
  | ok payload =>
    dsimp only
    cases service.home.settings.endpoint.isEmpty with
    | true => simp
    | false =>
      simp only [notePayload_mapDownstream, Realm.isDuplicate_mapDownstream, Bool.false_eq_true,
        if_false]
      generalize Realm.isDuplicate _ span payload = asked
      obtain ⟨hit, s⟩ := asked
      cases hit with
      | true => simp
      | false => exact forward_commutes hobs ht span payload s

theorem depart_commutes (hobs : obs.Commutes f obs') (span : ContextId) (started : UInt64)
    (response : Http.Response) (r : Realm σ) :
    obs'.depart (service.via t) request span started response (r.mapDownstream f) =
      ((obs.depart service request span started response r).1,
        (obs.depart service request span started response r).2.mapDownstream f) := by
  unfold depart
  dsimp only [via]
  rw [← hobs.finish, ← hobs.record]
  rfl

/-- **Another view.** The handler of events does the same under another view of what lies
downstream. -/
theorem ingest_commutes (service : Service σ) (hobs : obs.Commutes f obs')
    (ht : service.transport.Commutes f t) (parent : Option ContextId) (r : Realm σ) :
    obs'.ingest (service.via t) parent request (r.mapDownstream f) =
      ((obs.ingest service parent request r).1,
        (obs.ingest service parent request r).2.mapDownstream f) := by
  unfold ingest
  rw [arrive_commutes hobs]
  dsimp only
  rw [decide_commutes hobs ht]
  generalize obs.decide service request _ _ = decided
  obtain ⟨outcome, s⟩ := decided
  cases outcome with
  | returned verdict =>
    dsimp only
    rw [depart_commutes hobs]
    rfl
  | panicked panic => rfl
  | hung => rfl

end Views

end Observation
end EventRelay
