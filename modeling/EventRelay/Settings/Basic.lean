import EventRelay.Json.Basic
import EventRelay.Tenant

/-!
# Settings

What an instance is told once, when it starts: who it is, where events go, how deliveries are
retried, how long a payload counts as a duplicate, and which headers carry which identity. A field
that nobody sets has the zero value of its type; the accessors below put the values in force in
its place.

* `Settings`: the record.
* `Settings.listenPort`, `Settings.transactionHeader` and their like: the values in force.
-/

namespace EventRelay

/-- A user name and a password. -/
structure Credentials where
  username : String
  password : String
  deriving DecidableEq

instance : Inhabited Credentials := ⟨⟨"", ""⟩⟩

/-- A further place that log lines may go to. -/
structure LogTarget where
  enable : Bool
  fileName : String
  level : String
  deriving DecidableEq

instance : Inhabited LogTarget := ⟨⟨false, "", ""⟩⟩

/-- The settings of an instance; times are in milliseconds. -/
structure Settings where
  name : String
  appId : String
  version : String
  endpoint : String
  endpointAuth : Option Credentials
  port : UInt16
  maxAttempts : UInt32
  initialDelay : UInt64
  initialBackoff : UInt64
  pad : UInt64
  backoffMethod : String
  httpTimeout : UInt64
  responseHeaderTimeout : UInt64
  maxIdleConnsPerHost : UInt64
  maxMessageSize : UInt64
  eventTopics : List String
  actionTopics : List String
  topicPath : String
  workerPoolSize : Entries UInt64
  duplicateTimeout : UInt64
  duplicateCacheSize : UInt64
  allowPartner : Bool
  defaultPartner : String
  httpTenantHeader : String
  httpPartnerHeader : String
  httpTransactionHeader : String
  logParams : Entries String
  debugLog : Option LogTarget
  traceLog : Option LogTarget
  customProperties : Entries Json
  misc : Entries Json
  deriving DecidableEq

namespace Settings

/-- The settings when nobody sets anything. -/
def zero : Settings where
  name := ""
  appId := ""
  version := ""
  endpoint := ""
  endpointAuth := none
  port := 0
  maxAttempts := 0
  initialDelay := 0
  initialBackoff := 0
  pad := 0
  backoffMethod := ""
  httpTimeout := 0
  responseHeaderTimeout := 0
  maxIdleConnsPerHost := 0
  maxMessageSize := 0
  eventTopics := []
  actionTopics := []
  topicPath := ""
  workerPoolSize := []
  duplicateTimeout := 0
  duplicateCacheSize := 0
  allowPartner := false
  defaultPartner := ""
  httpTenantHeader := ""
  httpPartnerHeader := ""
  httpTransactionHeader := ""
  logParams := []
  debugLog := none
  traceLog := none
  customProperties := []
  misc := []

instance : Inhabited Settings := ⟨zero⟩

/-- A text, or another in place of the empty one. -/
def nonEmptyOr (text fallback : String) : String := if text.isEmpty then fallback else text

/-- The port to listen on. -/
def listenPort (s : Settings) : UInt16 := if s.port = 0 then 8080 else s.port

/-- The partner of a tenant text that names none. -/
def partnerInForce (s : Settings) : String := nonEmptyOr s.defaultPartner Tenant.defaultPartner

/-- The header with the tenant text. -/
def tenantHeader (s : Settings) : String := nonEmptyOr s.httpTenantHeader "X-Tenant-Id"

/-- The header with an explicit partner id. -/
def partnerHeader (s : Settings) : String := nonEmptyOr s.httpPartnerHeader "X-Partner-Id"

/-- The header with the correlation id. -/
def transactionHeader (s : Settings) : String := nonEmptyOr s.httpTransactionHeader "X-B3-TraceId"

/-- The size of a worker pool; `default` for one that has no size. -/
def poolSize (s : Settings) (pool : String) (default : UInt64) : UInt64 :=
  match Entries.find? pool s.workerPoolSize with
  | some size => if 0 < size then size else default
  | none => default

end Settings
end EventRelay
