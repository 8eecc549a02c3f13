import EventRelay.Service.Basic
import EventRelay.Time.Timestamp

/-!
# Health

Two routes tell whether the service is well. It depends on nothing that could fail, so that both
report who it is and what time it is there.

* `Service.health`: identity, version and environment.
* `Service.liveness`: that it is alive.
-/

namespace EventRelay.Service

variable {σ : Type}

/-- The version of a service whose settings give none. -/
def defaultVersion : String := "0.1.0"

/-- The report of the health route; its members stand in this order. -/
def healthReport (home : Instance) (now : UInt64) : Json :=
  .obj [("status", .str "healthy"), ("timestamp", .str (Timestamp.ofNanos now)),
    ("version", .str (Settings.nonEmptyOr home.settings.version defaultVersion)),
    ("instance", .str home.name), ("env", .str home.environment)]

/-- The report of the liveness route. -/
def livenessReport (home : Instance) (now : UInt64) : Json :=
  .ofMembers [("status", .str "alive"), ("timestamp", .str (Timestamp.ofNanos now)),
    ("service", .str home.name)]

/-- Answers with the report of the health route. -/
def health (service : Service σ) : Handler σ := fun _ _ r =>
  (.returned (.ofJson 200 (healthReport service.home r.clock.wall)), r)

/-- Answers with the report of the liveness route. -/
def liveness (service : Service σ) : Handler σ := fun _ _ r =>
  (.returned (.ofJson 200 (livenessReport service.home r.clock.wall)), r)

end EventRelay.Service
