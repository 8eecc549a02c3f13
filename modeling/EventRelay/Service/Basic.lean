import EventRelay.Delivery.Courier
import EventRelay.Http.Message
import EventRelay.Instance

/-!
# The service and its routes

A service is an instance with a way to deliver. A route joins a path to one method and a handler;
a request that finds no route is answered without any handler.

* `Service.of`: the service of an instance. `Service.opened`: what it is given to begin with.
* `Service.before`: the service at work that has a deadline.
* `RouteTable.serve`: finds the route of a request.
* `serve_of_unknown`: a path of no route is answered 404.
-/

namespace EventRelay

/-- An instance and what delivers its events, and the deadline of the work at hand, if it has
one. -/
structure Service (σ : Type) where
  home : Instance
  courier : Courier
  transport : Transport σ
  deadline : Option Nat

/-- The service of an instance: deliveries follow the plan of its settings. -/
def Service.of {σ : Type} (home : Instance) (transport : Transport σ) : Service σ :=
  ⟨home, ⟨.ofSettings home.settings, .shared⟩, transport, none⟩

/-- The same service at work that has a deadline. -/
def Service.before {σ : Type} (service : Service σ) (deadline : Nat) : Service σ :=
  { service with deadline := some deadline }

/-- A service opens: its root is given a duplicate cache if the settings ask for one. -/
def Service.opened {σ : Type} (service : Service σ) (r : Realm σ) : Realm σ :=
  match DuplicateWindow.ofSettings service.home.settings with
  | some window => r.useChecker service.home.root (.ofWindow window)
  | none => r

/-- What answers a request, under the context that was made for the request, if there is one. -/
abbrev Handler (σ : Type) :=
  Option ContextId → Http.Request → Realm σ → Outcome Http.Response × Realm σ

/-- A handler and the method it is for; one that is read also answers requests for its headers. -/
inductive Endpoint (σ : Type) where
  | read (handler : Handler σ)
  | post (handler : Handler σ)

/-- Paths with an endpoint each. -/
abbrev RouteTable (σ : Type) := List (String × Endpoint σ)

/-- Changes the result of work that has one. -/
def Outcome.map {α β : Type u} (f : α → β) : Outcome α → Outcome β
  | .returned a => .returned (f a)
  | .panicked payload => .panicked payload
  | .hung => .hung

namespace RouteTable

variable {σ : Type}

/-- The answer to a path of no route; to a target without a path it says how long it is. -/
def notFound (path : String) : Http.Response :=
  if path.toList.head? = some '/' then .ofStatus 404 else (Http.Response.ofStatus 404).withLength

/-- The answer to a method that a route is not for. -/
def methodNotAllowed (allowed : String) : Http.Response :=
  ({ Http.Response.ofStatus 405 with headers := .ofTexts [("allow", allowed)] }).withLength

/-- The answer of an endpoint. -/
def answer (endpoint : Endpoint σ) : Handler σ := fun parent request r =>
  match endpoint with
  | .read handler =>
    if request.method = "GET" || request.method = "HEAD" then
      let (outcome, r) := handler parent request r
      (outcome.map (Http.Response.answering request.method), r)
    else (.returned (methodNotAllowed "GET,HEAD"), r)
  | .post handler =>
    if request.method = "POST" then
      let (outcome, r) := handler parent request r
      (outcome.map Http.Response.withLength, r)
    else (.returned (methodNotAllowed "POST"), r)

/-- Finds the route of a request and lets its endpoint answer. -/
def serve (routes : RouteTable σ) : Handler σ := fun parent request r =>
  match routes.lookup request.path with
  | some endpoint => answer endpoint parent request r
  | none => (.returned (notFound request.path), r)

/-- A path of no route is answered 404 and changes nothing. -/
theorem serve_of_unknown (routes : RouteTable σ) (parent : Option ContextId)
    {request : Http.Request} (r : Realm σ) (h : routes.lookup request.path = none) :
    routes.serve parent request r = (.returned (notFound request.path), r) := by
  simp [serve, h]

end RouteTable
end EventRelay
