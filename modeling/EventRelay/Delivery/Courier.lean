import EventRelay.Delivery.Plan
import EventRelay.Delivery.Exchange
import EventRelay.Realm.Span

/-!
# Sending until it succeeds

A request is sent until its exchange is not worth another try, the attempts are used up, or the
work is abandoned while waiting. The number of the attempt stands among the log values of the
caller's context, and each attempt has a span and a context of its own. Work that has a deadline is
cut off where it stands when the deadline comes: in a wait or in a send.

* `Courier.attempt`: one send in its span.
* `Courier.retry`, `Courier.retryBefore`: the whole delivery, without and with a deadline.
* `Courier.send`, `Courier.sendBefore`: the delivery through the registered transport.
-/

namespace EventRelay

/-- A plan, and the clock whose time passes between the sends. -/
structure Courier where
  plan : RetryPlan
  time : TimeSource
  deriving DecidableEq, Repr

/-- The plan of the settings registered on a context; a single send when there are none. -/
def RetryPlan.ofContext (c : Context) : RetryPlan :=
  (c.settings?.map ofSettings).getD single

namespace Courier

variable {σ : Type}

/-- What is known of an exchange: address, status and, for a failure, its category. -/
def exchangeAttributes (request : OutboundRequest) (x : Exchange) : Attributes :=
  [(AttributeName.httpUrl, request.url),
    (AttributeName.httpStatusCode, toString x.status.toNat)] ++
    (match x.error with
      | some e => [(AttributeName.errorType, e.category.name)]
      | none => [])

/-- A number of milliseconds as a metric. -/
def metricOf (ms : Nat) : Int64 := .ofNat (min ms (UInt64.size / 2 - 1))

/-- One send in its span. -/
def attempt (d : Courier) (transport : Transport σ) (c : ContextId)
    (request : OutboundRequest) (r : Realm σ) : Outcome Exchange × Realm σ :=
  let (span, r) := r.openSpan c SpanName.httpRequest [(AttributeName.httpUrl, request.url)]
  let observer := r.observerOf span
  let started := r.clock.elapsed
  match transport span request r with
  | (.returned x, r) =>
    let attributes := exchangeAttributes request x
    let r := r.measure observer span MetricName.httpRequestDuration attributes
      (metricOf (r.millisSince d.time started))
    (.returned x, r.closeSpan observer span attributes (x.error.map DeliveryFailure.message))
  | other => other

/-- The attempt of a number, for work with a deadline. Whoever wakes up too late does not get to it,
and from a send that is done too late nothing comes back. -/
def attemptBefore (d : Courier) (deadline : Option Nat) (transport : Transport σ) (c : ContextId)
    (request : OutboundRequest) (number : Nat) (r : Realm σ) : Outcome Exchange × Realm σ :=
  if r.isLate deadline then (.hung, r)
  else d.attempt (transport.before deadline) c request (r.setLogValue c Key.attempt (.ofNat number))

/-- Logs that another attempt follows. -/
def logRetry (c : ContextId) (x : Exchange) (delay : Duration) (r : Realm σ) : Realm σ :=
  r.log c .debug "retrying request"
    [("status", toString x.status.toNat), ("delay_ms", toString delay.wholeMillis),
      ("transient", if x.error.all DeliveryFailure.isTransient then "true" else "false")]

/-- Logs that the attempts are used up. -/
def logExhausted (c : ContextId) (request : OutboundRequest) (x : Exchange) (r : Realm σ) :
    Realm σ :=
  r.log c .warn "retries exhausted"
    [("status", toString x.status.toNat), ("url", request.url)]

/-- The delivery from an attempt on, with as many further ones left. -/
def attemptsFrom (d : Courier) (deadline : Option Nat) (transport : Transport σ) (c : ContextId)
    (request : OutboundRequest) : Nat → Nat → Duration → Realm σ → Outcome Exchange × Realm σ
  | left, number, backoff, r =>
    match d.attemptBefore deadline transport c request number r with
    | (.returned x, r) =>
      if x.isRetryable then
        match left with
        | 0 => (.returned x, logExhausted c request x r)
        | left + 1 =>
          let (delay, backoff) := d.plan.nextDelay number backoff
          match (logRetry c x delay r).wait d.time c delay with
          | (true, r) => d.attemptsFrom deadline transport c request left (number + 1) backoff r
          | (false, r) =>
            (.returned { x with error := some (.cancelled (.ofNat number)) },
              r.log c .info "retry cancelled" [])
      else (.returned x, r)
    | other => other

/-- Sends a request until it succeeds, its attempts are used up, its context is abandoned or the
deadline comes. -/
def retryBefore (d : Courier) (deadline : Option Nat) (transport : Transport σ) (c : ContextId)
    (request : OutboundRequest) (r : Realm σ) : Outcome Exchange × Realm σ :=
  d.attemptsFrom deadline transport c request (d.plan.attemptLimit - 1) 1 d.plan.initialBackoff r

/-- Sends a request until it succeeds, its attempts are used up or its context is abandoned. -/
def retry (d : Courier) (transport : Transport σ) (c : ContextId) (request : OutboundRequest)
    (r : Realm σ) : Outcome Exchange × Realm σ :=
  d.retryBefore none transport c request r

/-- Sends a request before a deadline through the transport registered on its context. -/
def sendBefore (d : Courier) (deadline : Option Nat) (transport : Transport σ) (c : ContextId)
    (request : OutboundRequest) (r : Realm σ) : Outcome Exchange × Realm σ :=
  if (r.context c).hasTransport then d.retryBefore deadline transport c request r
  else (.returned (.failed (.configuration "no HTTP transport registered")), r)

/-- Sends a request through the transport registered on its context. -/
def send (d : Courier) (transport : Transport σ) (c : ContextId) (request : OutboundRequest)
    (r : Realm σ) : Outcome Exchange × Realm σ :=
  d.sendBefore none transport c request r

end Courier
end EventRelay
