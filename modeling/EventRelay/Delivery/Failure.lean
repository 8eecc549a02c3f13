/-!
# Failures of a delivery

A send fails on the way, is refused before it starts, brings back too much, is abandoned, or finds
nothing to send with. The failure travels beside the answer it belongs to.

* `DeliveryFailure.message`: the failure in words.
* `DeliveryFailure.isTransient`: whether it may pass.
* `DeliveryFailure.category`: its category in metrics.
-/

namespace EventRelay

/-- Why a send failed. -/
inductive DeliveryFailure where
  | network (message : String)
  | timeout (ms : UInt64)
  | invalidRequest (message : String)
  | bodyTooLarge (limit : UInt64)
  | cancelled (attempts : UInt32)
  | configuration (message : String)
  deriving DecidableEq, Repr

/-- The category of a failure. -/
inductive FailureCategory where
  | network
  | request
  | cancelled
  | configuration
  deriving DecidableEq, Repr

/-- The name of a category. -/
def FailureCategory.name : FailureCategory → String
  | .network => "network"
  | .request => "request"
  | .cancelled => "cancelled"
  | .configuration => "configuration"

namespace DeliveryFailure

/-- The failure in words. -/
def message : DeliveryFailure → String
  | .network message => "network connection failed: " ++ message
  | .timeout ms => "request timeout after " ++ toString ms.toNat ++ "ms"
  | .invalidRequest message => "invalid request: " ++ message
  | .bodyTooLarge limit => "response body exceeds " ++ toString limit.toNat ++ " bytes"
  | .cancelled attempts => "delivery cancelled after " ++ toString attempts.toNat ++ " attempts"
  | .configuration message => "invalid transport configuration: " ++ message

/-- Whether the failure may pass. -/
def isTransient : DeliveryFailure → Bool
  | .network _ | .timeout _ | .bodyTooLarge _ => true
  | .invalidRequest _ | .cancelled _ | .configuration _ => false

/-- The category of the failure. -/
def category : DeliveryFailure → FailureCategory
  | .network _ | .timeout _ => .network
  | .invalidRequest _ | .bodyTooLarge _ => .request
  | .cancelled _ => .cancelled
  | .configuration _ => .configuration

end DeliveryFailure
end EventRelay
