/-!
# The well-known names in a context

The names under which a context keeps what the dispatcher and its collaborators share.
-/

namespace EventRelay.Key

/-- The settings, among the handles. -/
def settings : String := "Eel.Settings"

/-- The client of outbound requests, among the handles. -/
def httpClient : String := "Eel.HttpClient"

/-- The transport of outbound requests, among the handles. -/
def httpTransport : String := "Eel.HttpTransport"

/-- The headers of the inbound request. -/
def header : String := "Eel.Header"

/-- The query of the inbound request. -/
def query : String := "Eel.Query"

/-- The application id of the tenant. -/
def tenantId : String := "Eel.TenantId"

/-- The partner id of the tenant. -/
def partnerId : String := "Eel.PartnerId"

/-- The open table of the settings. -/
def customProperties : String := "Eel.CustomProperties"

/-- The observer, among the handles. -/
def observer : String := "Eel.Observer"

/-- The duplicate checker, among the handles. -/
def duplicateChecker : String := "Eel.DuplicateChecker"

/-- The trace logger, among the handles. -/
def traceLogger : String := "Eel.TraceLogger"

/-- The shared cache, among the handles. -/
def cache : String := "Eel.Cache"

/-- The time at which a span started. -/
def startTime : String := "StartTime"

/-- The name of a span. -/
def spanName : String := "Eel.SpanName"

/-- The correlation id, among the log values. -/
def traceId : String := "tx.traceId"

/-- The number of the attempt, among the log values. -/
def attempt : String := "attempt"

/-- The path of the request, among the log values. -/
def route : String := "route"

/-- The topic of a payload. -/
def topic : String := "topic"

/-- The names that collaborators may rely on. -/
def shared : List String :=
  [settings, httpClient, httpTransport, header, query, tenantId, partnerId, customProperties,
    observer, duplicateChecker, traceLogger, cache, startTime, traceId, attempt]

end EventRelay.Key

/-! ## Names of spans, metrics and attributes -/

namespace EventRelay.SpanName

/-- The handling of an inbound request. -/
def httpHandle : String := "http.handle"

/-- One outbound request. -/
def httpRequest : String := "http.request"

/-- The processing of a message. -/
def messageProcess : String := "message.process"

/-- Every name of a span. -/
def all : List String := [httpHandle, httpRequest, messageProcess]

end EventRelay.SpanName

namespace EventRelay.MetricName

/-- How long an outbound request took. -/
def httpRequestDuration : String := "http.request.duration"

/-- How long the handling of an inbound request took. -/
def httpHandleDuration : String := "http.handle.duration"

/-- How long the processing of a message took. -/
def messageProcessDuration : String := "message.process.duration"

/-- How long the response to a message took. -/
def messageResponseDuration : String := "message.response.duration"

/-- How late a message was. -/
def messageLatency : String := "message.message.latency"

/-- Every name of a metric. -/
def all : List String :=
  [httpRequestDuration, httpHandleDuration, messageProcessDuration, messageResponseDuration,
    messageLatency]

end EventRelay.MetricName

namespace EventRelay.AttributeName

/-- The host that a request was sent to. -/
def httpHost : String := "http.host"

/-- The method of a request. -/
def httpMethod : String := "http.method"

/-- The route that a request took. -/
def httpRoute : String := "http.route"

/-- The status of an answer. -/
def httpStatusCode : String := "http.status_code"

/-- The address of a request. -/
def httpUrl : String := "http.url"

/-- The category of a failure. -/
def errorType : String := "error.type"

/-- The topic of a payload. -/
def topic : String := "topic"

/-- The handler of a message. -/
def handler : String := "handler"

/-- Every name of an attribute. -/
def all : List String :=
  [httpHost, httpMethod, httpRoute, httpStatusCode, httpUrl, errorType, topic, handler]

end EventRelay.AttributeName
