import EventRelay.Delivery.Scripted
import EventRelay.Service.Guard

/-!
# A drill

Two routes to try the capture of panics on: one panics the first time and answers from then on,
the other does nothing.

* `Service.drill`: the two routes behind the capture of panics.
-/

namespace EventRelay.Service

/-- Panics with the charge of the script, once; answers when there is no charge. -/
def boom : Handler Script := fun _ _ r =>
  match r.downstream.charge with
  | some payload =>
    (.panicked payload, { r with downstream := { r.downstream with charge := none } }.raise payload)
  | none => (.returned (.ofText 200 "spent"), r)

/-- Does nothing. -/
def fine : Handler Script := fun _ _ r => (.returned (.ofStatus 204), r)

/-- The two routes behind the capture of panics. -/
def drill (service : Service Script) : Handler Script :=
  service.containingPanics (RouteTable.serve [("/boom", .read boom), ("/fine", .read fine)])

end EventRelay.Service
