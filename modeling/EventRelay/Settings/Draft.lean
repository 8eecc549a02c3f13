import EventRelay.Settings.Document

/-!
# Drafting settings

A draft is the members of a document, set one after the other and then read as settings.

* `Draft.set`, `Draft.endpoint`, `Draft.dedup`, `Draft.logParam`: the members that each sets.
* `Draft.build`: the settings of the draft.
-/

namespace EventRelay

/-- The members of a document so far. -/
structure Draft where
  members : Entries Json

namespace Draft

/-- A draft without members. -/
def empty : Draft := ⟨[]⟩

/-- Sets one member. -/
def set (name : String) (value : Json) (d : Draft) : Draft := ⟨Entries.insert name value d.members⟩

/-- A draft with three attempts and short waits. -/
def retrying : Draft :=
  empty.set "MaxAttempts" (.ofNat 3) |>.set "InitialDelay" (.ofNat 10)
    |>.set "InitialBackoff" (.ofNat 20) |>.set "Pad" (.ofNat 5)

/-- Sets the place that events go to. -/
def endpoint (url : String) (d : Draft) : Draft := d.set "Endpoint" (.str url)

/-- Sets the window and the size of the duplicate cache. -/
def dedup (ttlMs size : UInt64) (d : Draft) : Draft :=
  (d.set "DuplicateTimeout" (.ofUInt64 ttlMs)).set "DuplicateCacheSize" (.ofUInt64 size)

/-- Adds a log field and its path; a member of that name that is no object stays as it is. -/
def logParam (name path : String) (d : Draft) : Draft :=
  match (Entries.find? "LogParams" d.members).getD (.obj []) with
  | .obj params => d.set "LogParams" (.obj (Entries.insert name (.str path) params))
  | other => d.set "LogParams" other

/-- The document text of a draft. -/
def text (d : Draft) : String := (Json.obj d.members).render

/-- The settings of a draft. -/
def build (d : Draft) : Except DocumentError Settings := Settings.parse d.text

end Draft
end EventRelay
