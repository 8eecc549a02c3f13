import EventRelay.Delivery.Failure
import EventRelay.Realm.Basic

/-!
# Requests, exchanges and transports

An exchange is what a send brought back: a body, a status and perhaps a failure. A transport makes
an exchange of a request, under the context of the send; it may change the realm, panic, or never
answer.

* `Exchange.isRetryable`: whether to send again.
* `Transport`: what sends. `Transport.before`: the same for work with a deadline.
-/

namespace EventRelay

-- Bytes are compared as the core library does, also where another instance is in sight.
local instance (priority := high) bytesDecidableEq : DecidableEq ByteArray := ByteArray.decEq

/-- A request to what lies downstream. -/
structure OutboundRequest where
  url : String
  payload : ByteArray
  verb : String
  headers : Entries String
  auth : Option Credentials
  deriving DecidableEq

/-- A post of a payload. -/
def OutboundRequest.post (url : String) (payload : ByteArray) : OutboundRequest :=
  ⟨url, payload, "POST", [], none⟩

/-- The same request with a header. -/
def OutboundRequest.withHeader (name value : String) (request : OutboundRequest) :
    OutboundRequest :=
  { request with headers := request.headers.insert name value }

/-- What a send brought back; the status is zero when there was no response. -/
structure Exchange where
  body : ByteArray
  status : UInt16
  error : Option DeliveryFailure
  deriving DecidableEq

namespace Exchange

/-- A response. -/
def response (status : UInt16) (body : ByteArray) : Exchange := ⟨body, status, none⟩

/-- A send that failed before a response. -/
def failed (error : DeliveryFailure) : Exchange := ⟨.empty, 0, some error⟩

/-- Whether to send again: a failure, or a status outside 200 to 499. -/
def isRetryable (x : Exchange) : Bool := x.error.isSome || x.status < 200 || 499 < x.status

theorem isRetryable_eq_false_iff (x : Exchange) :
    x.isRetryable = false ↔ x.error = none ∧ 200 ≤ x.status ∧ x.status ≤ 499 := by
  simp [isRetryable, UInt16.not_lt, and_assoc]

end Exchange

/-- What sends one request under a context. -/
abbrev Transport (σ : Type) :=
  ContextId → OutboundRequest → Realm σ → Outcome Exchange × Realm σ

namespace Transport

variable {σ : Type}

/-- The transport for work with a deadline: nothing comes back of a send that is not done by
then. -/
def before (transport : Transport σ) (deadline : Option Nat) : Transport σ :=
  fun span request r =>
    let sent := transport span request r
    (if sent.2.isLate deadline then .hung else sent.1, sent.2)

end Transport

end EventRelay
