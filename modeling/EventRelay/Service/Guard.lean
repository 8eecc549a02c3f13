import EventRelay.Realm.Panic
import EventRelay.Service.Health
import EventRelay.Service.Ingest

/-!
# What stands around the routes

Every request has a context of its own, derived from the root; a handler that panics is answered
500 under that context's correlation id, and one that is still at work when the time for a request
is over is cut off and answered 408.

* `Service.deadlineFrom`: when the time for a request is over.
* `Service.withTimeLimit`: answers in place of a handler that is still at work then.
* `Service.containingPanics`: answers in place of a handler that panics.
-/

namespace EventRelay.Service

variable {σ : Type}

/-- How long a request may take, in milliseconds. -/
def requestTimeLimitMs : UInt64 := 30000

/-- The answer to a request that took too long. -/
def timeoutResponse : Http.Response := (Http.Response.ofStatus 408).withLength

/-- When the time is over for a request that comes in now. -/
def deadlineFrom (r : Realm σ) : Nat := r.systemMillis + requestTimeLimitMs.toNat

/-- Answers at the deadline in place of a handler that is still at work then. -/
def withTimeLimit (handler : Nat → Handler σ) : Handler σ := fun parent request r =>
  let deadline := deadlineFrom r
  match handler deadline parent request r with
  | (.hung, r) => (.returned timeoutResponse, { r with systemMillis := deadline })
  | other => other

/-- The answer to a request whose handler panicked. -/
def panicResponse (id : String) : Http.Response :=
  .ofJson 500 (.ofMembers [("error", .str "internal server error"), ("correlationId", .str id)])

/-- The context of a request: derived from the root, with the correlation id that the request
brings along and the path of the request among the log values. -/
def openRequest (service : Service σ) (request : Http.Request) (r : Realm σ) :
    ContextId × Realm σ :=
  let (c, r) := service.home.requestContext r
  let r := match correlationId? service.home.settings request with
    | some id => r.setId c id
    | none => r
  (c, r.setLogValue c Key.route (.str request.path))

/-- Answers in place of a handler that panics. -/
def containingPanics (service : Service σ) (handler : Handler σ) : Handler σ :=
  fun _ request r =>
    let (c, r) := service.openRequest request r
    match r.contain c (handler (some c) request) with
    | (.returned (some response), r) => (.returned response, r)
    | (.returned none, r) =>
      let id := (r.context c).id
      (.returned (((panicResponse id).withCorrelation service.home.settings.transactionHeader
        id).answering request.method), r)
    | (.panicked payload, r) => (.panicked payload, r)
    | (.hung, r) => (.hung, r)

/-- The whole service. -/
def routes (service : Service σ) : RouteTable σ :=
  [("/health", .read service.health), ("/live", .read service.liveness),
    (eventsRoute, .post service.ingest)]

/-- Answers a request. -/
def serve (service : Service σ) : Handler σ :=
  service.containingPanics (withTimeLimit fun deadline => (service.before deadline).routes.serve)

/-- The route of events with nothing around it. -/
def serveEvents (service : Service σ) : Handler σ :=
  RouteTable.serve [(eventsRoute, .post service.ingest)]

end EventRelay.Service
