import EventRelay.Realm.Basic
import EventRelay.Text.Utf8

/-!
# Catching panics

A panic that a catch encloses leaves a trace for its catcher; one that no catch encloses is
reported to the process. A catch logs the panic that reaches it once, through its context, with
the panic's message and the trace, cut to a bound, and goes on without a result. Entering a catch
throws away the trace of an earlier panic.

* `Realm.raise`: a panic starts.
* `Realm.contain`: runs work under a catch; `Realm.containTurn`: polls it once.
* `Body`: work made of writes, records, catches, suspensions and an ending.
* `Body.run`, `Body.poll`: work run to its end, and from one suspension to the next.
-/

namespace EventRelay

/-- The greatest size of a logged trace, in bytes. -/
def traceLimit : Nat := 16 * 1024

namespace Realm

variable {σ : Type}

/-- Takes the next trace. -/
def takeTrace (r : Realm σ) : String × Realm σ :=
  let k := r.capture
  (k.traces k.taken, { r with capture := { k with taken := k.taken + 1 } })

/-- A panic starts: its trace is left for the catcher, or the panic is reported. -/
def raise (r : Realm σ) (payload : Payload) : Realm σ :=
  let k := r.capture
  if 0 < k.depth then
    { r with capture := { k with trace := some (k.traces k.taken), taken := k.taken + 1 } }
  else { r with capture := { k with uncaught := k.uncaught ++ [payload] } }

/-- A catch is entered. -/
def enter (r : Realm σ) : Realm σ :=
  { r with capture := { r.capture with depth := r.capture.depth + 1, trace := none } }

/-- A catch is left. -/
def leave (r : Realm σ) : Realm σ :=
  { r with capture := { r.capture with depth := r.capture.depth - 1 } }

/-- Work is suspended and resumed: the catches around it are left and entered again. -/
def suspend (r : Realm σ) : Realm σ :=
  if 0 < r.capture.depth then { r with capture := { r.capture with trace := none } } else r

/-- Logs a panic through a context, with the trace that it left or one taken now. -/
def reportPanic (r : Realm σ) (c : ContextId) (payload : Payload) : Realm σ :=
  let (trace, r) := match r.capture.trace with
    | some trace => (trace, { r with capture := { r.capture with trace := none } })
    | none => r.takeTrace
  r.log c .error "recovered from panic"
    [("panicError", payload.message), ("stackTrace", Text.truncate traceLimit trace)]

/-- Runs work under a catch. -/
def contain {α : Type u} (r : Realm σ) (c : ContextId)
    (work : Realm σ → Outcome α × Realm σ) : Outcome (Option α) × Realm σ :=
  let (outcome, r) := work r.enter
  let r := r.leave
  match outcome with
  | .returned a => (.returned (some a), r)
  | .panicked payload => (.returned none, r.reportPanic c payload)
  | .hung => (.hung, r)

end Realm

/-- Work that ends by a result or by a panic; a panic that is resumed leaves no trace of its own.
Work under a catch, and work whose panics are swallowed in silence, hands what came of it to what
follows. -/
inductive Body where
  | done (value : String)
  | panic (payload : Payload)
  | resume (payload : Payload)
  | write (c : ContextId) (change : Context → Context) (next : Body)
  | log (c : ContextId) (level : LogLevel) (message : String) (fields : List (String × String))
      (next : Body)
  | suspended (next : Body)
  | guarded (c : ContextId) (inner : Body) (next : Option String → Body)
  | sheltered (inner : Body) (next : Except Payload String → Body)

namespace Body

/-- Writes a value of a context. -/
def put (c : ContextId) (name : String) (value : Json) (next : Body) : Body :=
  .write c (.setValue name value) next

/-- Work under a catch, whose result is dropped. -/
def catching (c : ContextId) (inner next : Body) : Body := .guarded c inner fun _ => next

/-- Work whose panics are swallowed and whose result is dropped. -/
def swallowing (inner next : Body) : Body := .sheltered inner fun _ => next

variable {σ : Type}

/-- Runs work to its end, with nobody else at work while it is suspended. -/
def run : Body → Realm σ → Outcome String × Realm σ
  | .done value, r => (.returned value, r)
  | .panic payload, r => (.panicked payload, r.raise payload)
  | .resume payload, r => (.panicked payload, r)
  | .write c change next, r => next.run (r.update c change)
  | .log c level message fields next, r => next.run (r.log c level message fields)
  | .suspended next, r => next.run r.suspend
  | .guarded c inner next, r =>
    match r.contain c inner.run with
    | (.returned result, r) => (next result).run r
    | (.panicked payload, r) => (.panicked payload, r)
    | (.hung, r) => (.hung, r)
  | .sheltered inner next, r =>
    match inner.run r with
    | (.returned value, r) => (next (.ok value)).run r
    | (.panicked payload, r) => (next (.error payload)).run r
    | (.hung, r) => (.hung, r)

end Body

/-! ## Polls -/

/-- How a poll came out: with a result, by a panic, or with work that waits for the next poll. -/
inductive Turn (α : Type u) where
  | returned (a : α)
  | panicked (payload : Payload)
  | waiting (rest : Body)

/-- One poll under a catch: the catch is left when the poll is over, and entered at the next. -/
def Realm.containTurn {σ : Type} {α : Type u} (r : Realm σ) (c : ContextId)
    (work : Realm σ → Turn α × Realm σ) : Turn (Option α) × Realm σ :=
  let (turn, r) := work r.enter
  let r := r.leave
  match turn with
  | .returned a => (.returned (some a), r)
  | .panicked payload => (.returned none, r.reportPanic c payload)
  | .waiting rest => (.waiting rest, r)

/-- Runs work up to where it is suspended or ends. -/
def Body.poll {σ : Type} : Body → Realm σ → Turn String × Realm σ
  | .done value, r => (.returned value, r)
  | .panic payload, r => (.panicked payload, r.raise payload)
  | .resume payload, r => (.panicked payload, r)
  | .write c change next, r => next.poll (r.update c change)
  | .log c level message fields next, r => next.poll (r.log c level message fields)
  | .suspended next, r => (.waiting next, r)
  | .guarded c inner next, r =>
    match r.containTurn c inner.poll with
    | (.returned result, r) => (next result).poll r
    | (.panicked payload, r) => (.panicked payload, r)
    | (.waiting rest, r) => (.waiting (.guarded c rest next), r)
  | .sheltered inner next, r =>
    match inner.poll r with
    | (.returned value, r) => (next (.ok value)).poll r
    | (.panicked payload, r) => (next (.error payload)).poll r
    | (.waiting rest, r) => (.waiting (.sheltered rest next), r)

end EventRelay
