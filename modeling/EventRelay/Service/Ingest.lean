import EventRelay.Http.Query
import EventRelay.Json.FlatText
import EventRelay.Json.Parser
import EventRelay.Json.Path
import EventRelay.Service.Basic

/-!
# Taking in events

An event that is posted runs through four stages under a span of its own: its headers, query and
tenant are recorded; its body is read; unless it is a duplicate it is delivered; and the answer
says how that went. A payload that was not delivered may come again.

* `Verdict`: what becomes of an event, and `Verdict.response`, the answer that says so.
* `Service.decide`: the stages from the body to the verdict, in their order.
* `Service.ingest`: the handler.
-/

namespace EventRelay

/-- What becomes of an event. -/
inductive Verdict where
  | unreadable
  | noEndpoint
  | duplicate
  | forwarded (exchange : Exchange)
  deriving DecidableEq

namespace Verdict

/-- An answer that says what went wrong. -/
def faultResponse (status : Nat) (message : String) : Http.Response :=
  .ofJson status (.ofMembers [("error", .str message)])

/-- The status under which an exchange is passed on. -/
def passedStatus (exchange : Exchange) : Nat :=
  if 100 ≤ exchange.status && exchange.status ≤ 999 then exchange.status.toNat else 502

/-- The answer to an event. -/
def response : Verdict → Http.Response
  | .unreadable => faultResponse 413 "payload too large"
  | .noEndpoint => faultResponse 503 "no endpoint configured"
  | .duplicate => .ofJson 200 (.ofMembers [("status", .str "duplicate")])
  | .forwarded exchange =>
    match exchange.error with
    | some error => faultResponse 502 error.message
    | none => .ofBytes (passedStatus exchange) exchange.body

end Verdict

namespace Service

variable {σ : Type}

/-- The route that events are posted to. -/
def eventsRoute : String := "/v1/events"

/-- The correlation id that a request brings along. -/
def correlationId? (settings : Settings) (request : Http.Request) : Option String :=
  request.headers.nonEmpty? settings.transactionHeader

/-- The greatest body that settings allow. -/
def bodyLimit (settings : Settings) : Option Nat :=
  if settings.maxMessageSize = 0 then none else some settings.maxMessageSize.toNat

/-! ## What is recorded of a request -/

/-- The tenant of a request; its partner may have a header of its own. -/
def tenantOf (settings : Settings) (request : Http.Request) : Tenant :=
  let tenant := Tenant.split ((request.headers.text? settings.tenantHeader).getD "")
    settings.allowPartner settings.partnerInForce
  match settings.allowPartner, request.headers.nonEmpty? settings.partnerHeader with
  | true, some partner => { tenant with partnerId := partner }
  | _, _ => tenant

/-- Writes a text as a value and as a log value, unless it is empty. -/
def noteIdentity (span : ContextId) (name text : String) (r : Realm σ) : Realm σ :=
  if text.isEmpty then r
  else (r.setValue span name (.str text)).setLogValue span name (.str text)

/-- Records headers, query and tenant on the span of a request. -/
def noteRequest (settings : Settings) (request : Http.Request) (span : ContextId)
    (r : Realm σ) : Realm σ :=
  let tenant := tenantOf settings request
  let r := r.setValue span Key.header (.obj (request.headers.readable.mapValues .str))
  let r := r.setValue span Key.query (.obj ((Http.Query.parse request.query).mapValues .str))
  let r := noteIdentity span Key.tenantId tenant.appId r
  noteIdentity span Key.partnerId tenant.partnerId r

/-- The document of a payload, if it is one. -/
def documentOf (payload : ByteArray) : Option Json :=
  (Text.decode? payload).bind Json.parse?

/-- The topic that settings find in a payload. -/
def topicOf (settings : Settings) (payload : ByteArray) : Option String :=
  if settings.topicPath.isEmpty then none
  else ((documentOf payload).bind (·.lookup settings.topicPath)).map Json.flatText

/-- The log values that settings find in a payload. -/
def logFieldsOf (settings : Settings) (payload : ByteArray) : List (String × String) :=
  match documentOf payload with
  | some document => settings.logParams.filterMap (fun p =>
      (document.lookup p.2).map (fun value => (p.1, value.flatText)))
  | none => []

/-- Records log values and topic of a payload on the span of its request. -/
def notePayload (settings : Settings) (payload : ByteArray) (span : ContextId) (r : Realm σ) :
    Realm σ :=
  let r := (logFieldsOf settings payload).foldl
    (fun r field => r.setLogValue span field.1 (.str field.2)) r
  match topicOf settings payload with
  | some topic => r.setValue span Key.topic (.str topic)
  | none => r

/-! ## Delivery -/

/-- The request to what lies downstream: of the headers of the event only its kind, the
correlation id and the tenant go along. -/
def relayedRequest (settings : Settings) (request : Http.Request) (id : String)
    (payload : ByteArray) : OutboundRequest :=
  let kind := (request.headers.text? "content-type").getD "application/json"
  let outbound := ((OutboundRequest.post settings.endpoint payload).withHeader "content-type"
    kind).withHeader settings.transactionHeader id
  let outbound := { outbound with auth := settings.endpointAuth }
  match request.headers.text? settings.tenantHeader with
  | some tenant => outbound.withHeader settings.tenantHeader tenant
  | none => outbound

/-- A payload that was not delivered may come again. -/
def settle (span : ContextId) (payload : ByteArray) (exchange : Exchange) (r : Realm σ) :
    Realm σ :=
  if exchange.isRetryable then r.forget span payload else r

/-- Logs an exchange that cannot be passed on as a success. -/
def logExchange (span : ContextId) (exchange : Exchange) (r : Realm σ) : Realm σ :=
  match exchange.error with
  | some error => r.log span .error "delivery failed" [("error", error.message)]
  | none =>
    if 200 ≤ exchange.status && exchange.status ≤ 299 then r
    else r.log span .warn "downstream rejected event"
      [("status", toString exchange.status.toNat)]

/-- Delivers a payload, and says what came of it. -/
def forward (service : Service σ) (request : Http.Request) (span : ContextId)
    (payload : ByteArray) (r : Realm σ) : Outcome Verdict × Realm σ :=
  let outbound := relayedRequest service.home.settings request (r.context span).id payload
  match service.courier.sendBefore service.deadline service.transport span outbound r with
  | (.returned exchange, r) =>
    (.returned (.forwarded exchange), logExchange span exchange (settle span payload exchange r))
  | (.panicked payload, r) => (.panicked payload, r)
  | (.hung, r) => (.hung, r)

/-- The stages from the body to the verdict. -/
def decide (service : Service σ) (request : Http.Request) (span : ContextId) (r : Realm σ) :
    Outcome Verdict × Realm σ :=
  let settings := service.home.settings
  match request.readBody (bodyLimit settings) with
  | .error reason =>
    (.returned .unreadable, r.log span .warn "payload rejected"
      [("limit", toString settings.maxMessageSize.toNat), ("reason", reason)])
  | .ok payload =>
    let r := notePayload settings payload span r
    if settings.endpoint.isEmpty then
      (.returned .noEndpoint, r.log span .error "no endpoint configured" [])
    else
      match r.isDuplicate span payload with
      | (true, r) => (.returned .duplicate, r.log span .info "duplicate event suppressed" [])
      | (false, r) => service.forward request span payload r

/-! ## The handler -/

/-- What is known of a request before its body is read. -/
def arrivalAttributes (request : Http.Request) : Attributes :=
  [(AttributeName.httpMethod, "POST"), (AttributeName.httpRoute, eventsRoute)] ++
    (match request.headers.text? "host" with
      | some host => [(AttributeName.httpHost, host)]
      | none => [])

/-- What is known of a request once it is answered. -/
def departureAttributes (settings : Settings) (request : Http.Request)
    (response : Http.Response) : Attributes :=
  let topic := match request.readBody (bodyLimit settings) with
    | .ok payload => topicOf settings payload
    | .error _ => none
  arrivalAttributes request ++
    (match topic with
      | some topic => [(AttributeName.topic, topic)]
      | none => []) ++
    [(AttributeName.httpStatusCode, toString response.status)]

/-- Ends the span of a request with its answer. -/
def depart (service : Service σ) (request : Http.Request) (span : ContextId) (started : UInt64)
    (response : Http.Response) (r : Realm σ) : Http.Response × Realm σ :=
  let settings := service.home.settings
  let response := response.withCorrelation settings.transactionHeader (r.context span).id
  let attributes := departureAttributes settings request response
  let observer := r.observerOf span
  let r := r.measure observer span MetricName.httpHandleDuration attributes
    (Courier.metricOf (r.clock.millisSince started))
  (response, r.closeSpan observer span attributes none)

/-- Starts the span of a request and records the request there. -/
def arrive (service : Service σ) (parent : Option ContextId) (request : Http.Request)
    (r : Realm σ) : ContextId × Realm σ :=
  let settings := service.home.settings
  let (span, r) := r.openSpan (parent.getD service.home.root) SpanName.httpHandle
    (arrivalAttributes request)
  let r := match correlationId? settings request with
    | some id => r.setId span id
    | none => r
  (span, noteRequest settings request span r)

/-- Takes in an event, under the context of its request or else under the root. -/
def ingest (service : Service σ) : Handler σ := fun parent request r =>
  let started := r.clock.elapsed
  let (span, r) := service.arrive parent request r
  match service.decide request span r with
  | (.returned verdict, r) =>
    let (response, r) := service.depart request span started verdict.response r
    (.returned response, r)
  | (.panicked payload, r) => (.panicked payload, r)
  | (.hung, r) => (.hung, r)

end Service
end EventRelay
