import EventRelay.Realm.Basic

/-!
# A running instance

An instance has a root context, its settings, a name and the name of the environment in which it
is deployed. The root holds the settings and their open table, so that every context derived from
it has them too.

* `Instance.onRoot`: an instance on a context that exists.
* `Instance.requestContext`: a fresh context for a request.
-/

namespace EventRelay

/-- A root context, the settings, and the identity of the instance. -/
structure Instance where
  root : ContextId
  settings : Settings
  environment : String
  deriving DecidableEq

namespace Instance

variable {σ : Type}

/-- The name of an instance whose settings give none. -/
def defaultName : String := "eel"

/-- The name of the instance. -/
def name (i : Instance) : String :=
  if i.settings.name.isEmpty then defaultName else i.settings.name

/-- An instance on a context that exists: settings and open table are written there. -/
def onRoot (r : Realm σ) (root : ContextId) (settings : Settings) (environment : String) :
    Instance × Realm σ :=
  (⟨root, settings, environment⟩,
    (r.setHandle root Key.settings (.settings settings)).setValue root Key.customProperties
      (.obj settings.customProperties))

/-- Registers the observer of the instance. -/
def observe (i : Instance) (o : Observer) (r : Realm σ) : Realm σ :=
  r.setHandle i.root Key.observer (.observer o)

/-- A fresh context for a request. -/
def requestContext (i : Instance) (r : Realm σ) : ContextId × Realm σ := r.derive i.root

end Instance
end EventRelay
