import EventRelay.Proofs.Delivery.Watch
import EventRelay.Proofs.Service.Observation
import EventRelay.Proofs.Service.Undelivered

/-!
# Watching the sends of the service

One may stand between the service and what lies downstream and take notes of the sends with which it
answers a request. The service does what it does unwatched.

* `Service.calls`: the sends of one request, each an id and what was sent.
* `serve_noting`: taking notes changes neither the answer nor the realm.
-/

namespace EventRelay
namespace Service

variable {σ β : Type}

/-- The note of a send: the id of its context, and the request. -/
def callOf (span : ContextId) (request : OutboundRequest) (r : Realm σ)
    (_ : Outcome Exchange × Realm σ) : String × OutboundRequest :=
  ((r.context span).id, request)

/-- The sends with which the service answers a request, in their order. -/
def calls (service : Service σ) (request : Http.Request) (r : Realm σ) :
    List (String × OutboundRequest) :=
  ((service.noting callOf).serve none request (r.mapDownstream fun s => (s, []))).2.downstream.2

/-! ## Taking notes changes nothing -/

section Noting

variable (note : ContextId → OutboundRequest → Realm σ → Outcome Exchange × Realm σ → β)
  {service : Service σ} {request : Http.Request}

theorem ingest_noting (parent : Option ContextId) (request : Http.Request)
    (r : Realm (σ × List β)) : service.ingest parent request (r.mapDownstream Prod.fst) =
      (((service.noting note).ingest parent request r).1,
        ((service.noting note).ingest parent request r).2.mapDownstream Prod.fst) := by
  simp only [← Observation.own_ingest]
  exact Observation.ingest_commutes (service.noting note) (Observation.own_commutes Prod.fst)
    (service.transport.noting_commutes note) parent r

/-- **Notes.** Taking notes changes neither the answer to an event nor the realm. -/
theorem serve_noting (hmethod : request.method = "POST") (hpath : request.path = eventsRoute)
    (parent : Option ContextId) (r : Realm (σ × List β)) :
    service.serve parent request (r.mapDownstream Prod.fst) =
      (((service.noting note).serve parent request r).1,
        ((service.noting note).serve parent request r).2.mapDownstream Prod.fst) := by
  unfold serve containingPanics Realm.contain withTimeLimit
  dsimp only
  rw [show service.openRequest request (r.mapDownstream Prod.fst) = _ from
    (service.noting note).openRequest_mapDownstream Prod.fst service.transport request r]
  dsimp only
  rw [Realm.enter_mapDownstream, deadlineFrom_mapDownstream, routes_serve_eq hmethod hpath,
    routes_serve_eq hmethod hpath, ingest_noting note]
  generalize (service.noting note).openRequest request r = opened
  obtain ⟨c, s⟩ := opened
  dsimp only
  rw [show ((service.before (deadlineFrom s.enter)).noting note) =
    (service.noting note).before (deadlineFrom s.enter) from rfl]
  generalize ((service.noting note).before (deadlineFrom s.enter)).ingest (some c) request
    s.enter = ingested
  obtain ⟨outcome, s'⟩ := ingested
  cases outcome with
  | returned response => rfl
  | panicked panic =>
    simp only [Outcome.map, Realm.leave_mapDownstream, Realm.reportPanic_mapDownstream,
      Realm.context_mapDownstream]
    rfl
  | hung => rfl

end Noting

end Service
end EventRelay
