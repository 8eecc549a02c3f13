import EventRelay.Realm.Basic

/-!
# The records that were kept

The journal of a realm holds the records of every sink in the order in which they were logged.

* `Realm.kept`: the records kept in memory.
* `Realm.clearKept`: throws them away.
* `kept_emit`: a context that logs to memory adds one record, any other adds none.
-/

namespace EventRelay.Realm

variable {σ : Type}

/-- The records kept in memory. -/
def kept (r : Realm σ) : List LogRecord :=
  r.journal.toList.filterMap (fun e => if e.1 = .kept then some e.2 else none)

/-- The kept records of a level. -/
def keptAt (r : Realm σ) (level : LogLevel) : List LogRecord :=
  r.kept.filter (fun record => record.level = level)

/-- The kept records with a message. -/
def keptWith (r : Realm σ) (message : String) : List LogRecord :=
  r.kept.filter (fun record => record.message = message)

/-- Throws the kept records away. -/
def clearKept (r : Realm σ) : Realm σ :=
  { r with journal := r.journal.filter (fun e => e.1 ≠ .kept) }

@[simp] theorem kept_clearKept (r : Realm σ) : r.clearKept.kept = [] := by
  simp [kept, clearKept, List.filterMap_eq_nil_iff]

/-- A context that logs to memory adds one record, any other adds none. -/
theorem kept_emit (r : Realm σ) (c : ContextId) (level : LogLevel) (message : String)
    (fields : Entries Json) :
    (r.emit c level message fields).kept = r.kept ++
      (if (r.context c).logging ∧ (r.context c).sink = .kept then
        [⟨level, message, (r.context c).logValues.overlay fields⟩] else []) := by
  unfold emit kept
  by_cases hl : (r.context c).logging <;> by_cases hs : (r.context c).sink = .kept <;>
    simp [hl, hs]

end EventRelay.Realm
