import EventRelay.Realm.Basic

/-!
# Spans and metrics

An observer is told when a span starts, what was measured in it and when it ends. A span has a
context of its own, derived from the one in which it starts. The inert observer does no more; the
tracing one logs each call through the span's context, with the time that the span took.

* `Realm.openSpan`, `Realm.measure`, `Realm.closeSpan`: the three calls.
-/

namespace EventRelay.Realm

variable {σ : Type}

/-- The observer of a context. -/
def observerOf (r : Realm σ) (c : ContextId) : Observer := (r.context c).observer

/-- Keeps a call. -/
def told (r : Realm σ) (call : ObserverCall) : Realm σ := { r with calls := r.calls.push call }

/-- A span starts in a context, through the observer of that context. -/
def openSpan (r : Realm σ) (parent : ContextId) (name : String) (attributes : Attributes) :
    ContextId × Realm σ :=
  let observer := r.observerOf parent
  let (span, r) := r.derive parent
  let r := r.told (.started parent span name attributes)
  match observer with
  | .inert => (span, r)
  | .tracing time =>
    let r := r.setValue span Key.startTime (.ofUInt64 (r.wallTime time))
    let r := r.setValue span Key.spanName (.str name)
    (span, r.emit span .debug "span started" ((textFields attributes).insert "span" (.str name)))

/-- Something was measured in a span. -/
def measure (r : Realm σ) (observer : Observer) (span : ContextId) (metric : String)
    (attributes : Attributes) (value : Int64) : Realm σ :=
  let r := r.told (.recorded span metric attributes value)
  match observer with
  | .inert => r
  | .tracing _ =>
    let fields := (textFields attributes).insert "metric" (.str metric)
    r.emit span .info "metric recorded" (fields.insert "value" (.num (.ofInt64 value)))

/-- What the end of a span shows beside its attributes: its name, and the whole milliseconds since
its start when the start is known. -/
def spanFields (r : Realm σ) (time : TimeSource) (span : ContextId) (fields : Entries Json) :
    Entries Json :=
  let ctx := r.context span
  let fields := match ctx.value? Key.spanName with
    | some name => fields.insert "span" name
    | none => fields
  match (ctx.value? Key.startTime).bind Json.natural? with
  | some started =>
    fields.insert "duration_ms" (.ofNat (((r.wallTime time).toNat - started) / 1000000))
  | none => fields

/-- A span ends, with an error or without. -/
def closeSpan (r : Realm σ) (observer : Observer) (span : ContextId) (attributes : Attributes)
    (error : Option String) : Realm σ :=
  let r := r.told (.ended span attributes error)
  match observer with
  | .inert => r
  | .tracing time =>
    let fields := r.spanFields time span (textFields attributes)
    match error with
    | some text => r.emit span .warn "span ended with error" (fields.insert "error" (.str text))
    | none => r.emit span .debug "span ended" fields

end EventRelay.Realm
