import EventRelay.Delivery.Exchange
import EventRelay.Realm.Panic

/-!
# A scripted transport

A transport that stands in for what lies downstream: it answers with the exchanges of a script in
order, the last again and again, and remembers what it was sent. Faults may strike at a send: time
passes, a line is logged, work is abandoned, the send panics or never ends.

* `Script.answer`: the next exchange of the script.
* `Script.send`: the transport.
-/

namespace EventRelay

/-- What a fault does to the work that sends. -/
inductive FaultAction where
  | cancel
  | cancelSpan
  | cancelInWait
  | panic (payload : Payload)
  | hang
  deriving DecidableEq

/-- A fault, at one send or at every one. -/
structure Fault where
  call : Option Nat
  advance : Option Duration
  log : Option String
  action : Option FaultAction

/-- What a transport saw of a send: the request and the context that it was made under. -/
structure Sighting where
  request : OutboundRequest
  context : Context

/-- The exchanges to come, the last one answered, the sends that were answered with the id of
their contexts, every send that was made, the faults, the context that they abandon, and the
panic with which a drill is charged. -/
structure Script where
  upcoming : List Exchange
  last : Option Exchange
  answered : Array (String × OutboundRequest)
  seen : Array Sighting
  faults : List Fault
  target : ContextId
  charge : Option Payload

namespace Script

/-- A script of exchanges. -/
def ofExchanges (exchanges : List Exchange) (faults : List Fault) : Script :=
  ⟨exchanges, none, #[], #[], faults, 0, none⟩

/-- Appends an exchange. -/
def push (x : Exchange) (s : Script) : Script := { s with upcoming := s.upcoming ++ [x] }

/-- The next exchange of the script; an empty script answers 200. -/
def answer (id : String) (request : OutboundRequest) (s : Script) : Exchange × Script :=
  let s := { s with answered := s.answered.push (id, request) }
  match s.upcoming with
  | x :: rest => (x, { s with upcoming := rest, last := some x })
  | [] => (s.last.getD (.response 200 .empty), s)

/-- One fault strikes at a send; none when the work goes on. -/
def strike (fault : Fault) (span : ContextId) (r : Realm Script) :
    Option (Outcome Exchange) × Realm Script :=
  let r := match fault.advance with
    | some d => r.advance d
    | none => r
  let r := match fault.log with
    | some message => r.log span .info message []
    | none => r
  match fault.action with
  | none => (none, r)
  | some .cancel => (none, r.cancel r.downstream.target)
  | some .cancelSpan => (none, r.cancel span)
  | some .cancelInWait =>
    (none, { r with interrupts := r.interrupts ++ [r.downstream.target] })
  | some (.panic payload) => (some (.panicked payload), r.raise payload)
  | some .hang => (some .hung, r)

/-- The faults strike one after the other. -/
def strikeAll (span : ContextId) : List Fault → Realm Script →
    Option (Outcome Exchange) × Realm Script
  | [], r => (none, r)
  | fault :: faults, r =>
    match strike fault span r with
    | (none, r) => strikeAll span faults r
    | (some outcome, r) => (some outcome, r)

/-- The scripted transport. -/
def send : Transport Script := fun span request r =>
  let script := r.downstream
  let call := script.seen.size + 1
  let r := { r with downstream :=
    { script with seen := script.seen.push ⟨request, r.context span⟩ } }
  match strikeAll span (script.faults.filter (fun f => f.call.all (· == call))) r with
  | (some outcome, r) => (outcome, r)
  | (none, r) =>
    let (x, script) := r.downstream.answer (r.context span).id request
    (.returned x, { r with downstream := script })

end Script
end EventRelay
