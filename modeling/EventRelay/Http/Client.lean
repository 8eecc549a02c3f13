import EventRelay.Delivery.Exchange
import EventRelay.Http.Token
import EventRelay.Url.Parser

/-!
# The HTTP client

A request is checked before anything is sent: its verb, its address and its headers. One that
passes is sent over a connection. The headers that the client computes itself are never taken from
the request.

* `ClientLimits.ofSettings`: the limits that settings ask for.
* `HttpClient.new?`: a client, unless the user agent cannot stand in a header.
* `HttpClient.prepare`: the checks, in their order.
* `HttpClient.send`: the transport where nobody accepts a connection.
-/

namespace EventRelay

/-- Limits of the client, where `none` is no limit, and the name that it gives itself. -/
structure ClientLimits where
  timeout : Option Duration
  readTimeout : Option Duration
  maxIdlePerHost : UInt64
  maxBodyBytes : Option UInt64
  userAgent : String
  deriving DecidableEq, Repr

namespace ClientLimits

/-- The user agent that requests carry. -/
def defaultUserAgent : String := "eel/0.1.0"

/-- The limits when nobody sets any. -/
def default : ClientLimits :=
  ⟨some (.ofMillis 30000), none, .ofNat (UInt64.size - 1), none, defaultUserAgent⟩

/-- A number that is not zero. -/
def positive? (n : UInt64) : Option UInt64 := if n = 0 then none else some n

/-- The limits that settings ask for; zero asks for none. -/
def ofSettings (s : Settings) : ClientLimits :=
  { default with
    timeout := (positive? s.httpTimeout).map Duration.ofMillis
    readTimeout := (positive? s.responseHeaderTimeout).map Duration.ofMillis
    maxIdlePerHost := (positive? s.maxIdleConnsPerHost).getD default.maxIdlePerHost
    maxBodyBytes := positive? s.maxMessageSize }

end ClientLimits

/-- A client, which sends requests over HTTP under its limits. -/
structure HttpClient where
  limits : ClientLimits
  deriving DecidableEq, Repr

/-- What the client reports of its work: a request under way, and that it failed. -/
inductive ClientEvent where
  | started (correlationId url verb : String)
  | failed (error : String)
  deriving DecidableEq, Repr

/-- A request that may be sent. -/
structure PreparedRequest where
  method : String
  url : Url
  headers : Entries String
  auth : Option Credentials
  payload : ByteArray

/-- Why a request is not sent: its verb is no method, or the client refuses the rest of it. -/
inductive RequestFault where
  | badVerb (verb : String)
  | builder
  | address (url : Url)
  deriving DecidableEq, Repr

/-- The fault in words. -/
def RequestFault.message : RequestFault → String
  | .badVerb verb => "bad verb " ++ verb ++ ": invalid HTTP method"
  | .builder => "builder error"
  | .address url => "builder error for url (" ++ url.text ++ ")"

namespace HttpClient

/-- A client, unless the user agent cannot stand in a header. -/
def new? (limits : ClientLimits) : Except DeliveryFailure HttpClient :=
  if Http.isFieldValue limits.userAgent.toUTF8 then .ok ⟨limits⟩
  else .error (.configuration "failed to build HTTP client: builder error")

/-- The headers that the client computes. -/
def clientHeaders : List String :=
  ["content-length", "host", "connection", "keep-alive", "proxy-authenticate",
    "proxy-authorization", "te", "trailer", "transfer-encoding", "upgrade"]

/-- A name in lower case; the sign of the unit kelvin is a capital k. -/
def lowerName (name : String) : String :=
  Text.asciiLower (name.map (fun c => if c.toNat = 0x212A then 'k' else c))

/-- Whether the client computes a header. -/
def isClientHeader (name : String) : Bool := clientHeaders.contains (lowerName name)

/-- The verb of a request; one without a verb posts. -/
def verbOf (request : OutboundRequest) : String :=
  if request.verb.isEmpty then "POST" else request.verb

/-- The greatest size of an address, in bytes. -/
def addressLimit : Nat := 65534

/-- Whether a header of a request may be sent. -/
def isSendable (header : String × String) : Bool :=
  Http.isFieldName header.1 && Http.isFieldValue header.2.toUTF8

/-- Whether requests can be sent to an address. -/
def isReachable (url : Url) : Bool :=
  (url.scheme = "http" || url.scheme = "https") && url.text.utf8ByteSize ≤ addressLimit &&
    (url.host.getD "").toList.all (fun c => !"\"\x60\x7b\x7d".toList.contains c)

/-- The checks of a request, in their order. -/
def prepare (request : OutboundRequest) : Except RequestFault PreparedRequest := do
  let verb := verbOf request
  let method := Text.asciiUpper verb
  unless Http.isToken method do throw (.badVerb verb)
  let some url := Url.parse? request.url | throw .builder
  unless url.host.isSome do throw (.address url)
  let headers := request.headers.filter (fun h => !isClientHeader h.1)
  unless headers.all isSendable do throw .builder
  let url := url.withoutCredentials
  unless isReachable url do throw (.address url)
  return ⟨method, url, headers, request.auth, request.payload⟩

/-- The exchange of a request that is not sent. -/
def refused (fault : RequestFault) : Exchange := .failed (.invalidRequest fault.message)

/-- What is reported when nobody accepts the connection. -/
def connectFault (prepared : PreparedRequest) : String :=
  "error sending request for url (" ++ prepared.url.text ++ ")"

/-- What the client does with a request where nobody accepts a connection: the exchange, and what
it reports beside it. -/
def perform (request : OutboundRequest) : Exchange × List ClientEvent :=
  match prepare request with
  | .ok prepared =>
    let fault := connectFault prepared
    (.failed (.network ("connection failed: " ++ fault)), [.failed fault])
  | .error (.badVerb verb) => (refused (.badVerb verb), [])
  | .error fault => (refused fault, [.failed fault.message])

/-- The transport where nobody accepts a connection; it keeps what the client reports. -/
def send : Transport (Array ClientEvent) := fun c request r =>
  let (exchange, events) := perform request
  let started := ClientEvent.started (r.context c).id request.url request.verb
  (.returned exchange,
    { r with downstream := r.downstream.push started ++ events.toArray })

/-- No header that the client computes is taken from a request. -/
theorem not_isClientHeader_of_prepare {request : OutboundRequest} {prepared : PreparedRequest}
    (h : prepare request = .ok prepared) : ∀ e ∈ prepared.headers, isClientHeader e.1 = false := by
  simp only [prepare, bind, Except.bind, throw, throwThe, MonadExceptOf.throw, pure,
    Except.pure] at h
  repeat' split at h
  all_goals try cases h
  intro e he
  simpa using (List.mem_filter.1 he).2

end HttpClient
end EventRelay
