import EventRelay.Context.Basic
import EventRelay.Dedup.Cache
import EventRelay.Panic.Payload
import EventRelay.Time.Clock
import EventRelay.Uuid

/-!
# The realm of a running instance

Everything that an instance changes while it runs stands in one value: the contexts that were
made, each at a place of its own, the records that were logged, the calls made to observers, the
clock, the supply of fresh identifiers, the duplicate checker, the traces of panics, and the state
of what lies downstream, of which this module knows nothing.

* `Realm.derive`: a context derived from another.
* `Realm.cancel`: abandons a context and every one derived from it.
* `Realm.log`: a record with the log values of a context.
* `context_update_ne`: a write to one context leaves every other as it is.
-/

namespace EventRelay

/-- The place of a context. -/
abbrev ContextId := Nat

/-- Names and values that describe a span or a metric; of two with one name the later counts. -/
abbrev Attributes := List (String × String)

/-- What an observer was told. -/
inductive ObserverCall where
  | started (parent span : ContextId) (name : String) (attributes : Attributes)
  | recorded (span : ContextId) (metric : String) (attributes : Attributes) (value : Int64)
  | ended (span : ContextId) (attributes : Attributes) (error : Option String)
  deriving DecidableEq, Repr

/-- How a step came out: with a result, by a panic, or not at all. -/
inductive Outcome (α : Type u) where
  | returned (a : α)
  | panicked (payload : Payload)
  | hung
  deriving DecidableEq

/-- What catches panics: how many catches enclose the running work, the trace that the last panic
left for its catcher, the traces to come and how many of them were taken, and the panics that no
catch enclosed. -/
structure Capture where
  depth : Nat
  trace : Option String
  traces : Nat → String
  taken : Nat
  uncaught : List Payload

/-- The state of a running instance. `systemMillis` is what the machine's timer shows, `rests` lists
the sleeps that were begun and not abandoned, and `interrupts` the contexts that are abandoned as
soon as somebody waits. -/
structure Realm (σ : Type) where
  contexts : Array Context
  journal : Array (Sink × LogRecord)
  calls : Array ObserverCall
  clock : Clock
  systemWall : UInt64
  systemMillis : Nat
  rests : Array Duration
  ids : Uuid.Supply
  checker : Option DuplicateCache
  capture : Capture
  interrupts : List ContextId
  downstream : σ

namespace Realm

variable {σ : Type}

/-- A realm at its start. -/
def start (clock : Clock) (bits : Nat → Nat) (traces : Nat → String) (downstream : σ) :
    Realm σ where
  contexts := #[]
  journal := #[]
  calls := #[]
  clock := clock
  systemWall := clock.wall
  systemMillis := 0
  rests := #[]
  ids := ⟨bits, 0⟩
  checker := none
  capture := ⟨0, none, traces, 0, []⟩
  interrupts := []
  downstream := downstream

/-! ## Contexts -/

/-- The context at a place. -/
def context (r : Realm σ) (c : ContextId) : Context := r.contexts.getD c default

/-- Changes the context at a place. -/
def update (r : Realm σ) (c : ContextId) (f : Context → Context) : Realm σ :=
  { r with contexts := r.contexts.modify c f }

/-- Puts a context at the next place. -/
def add (r : Realm σ) (c : Context) : ContextId × Realm σ :=
  (r.contexts.size, { r with contexts := r.contexts.push c })

/-- A context derived from no other. -/
def addRoot (r : Realm σ) (sink : Sink) : ContextId × Realm σ := r.add (.root sink)

/-- A context derived from the one at a place. A fresh identifier is minted only if that one has
none. -/
def derive (r : Realm σ) (parent : ContextId) : ContextId × Realm σ :=
  let c := r.context parent
  if c.id.isEmpty then
    let (fresh, ids) := r.ids.mint
    { r with ids := ids }.add (c.derived parent fresh)
  else r.add (c.derived parent "")

/-- Sets the correlation id of a context. -/
def setId (r : Realm σ) (c : ContextId) (id : String) : Realm σ := r.update c (.setId id)

/-- Writes a value of a context. -/
def setValue (r : Realm σ) (c : ContextId) (name : String) (value : Json) : Realm σ :=
  r.update c (.setValue name value)

/-- Writes a log value of a context. -/
def setLogValue (r : Realm σ) (c : ContextId) (name : String) (value : Json) : Realm σ :=
  r.update c (.setLogValue name value)

/-- Writes a handle of a context. -/
def setHandle (r : Realm σ) (c : ContextId) (name : String) (handle : Handle) : Realm σ :=
  r.update c (.setHandle name handle)

/-- Switches the logging of a context on or off. -/
def setLogging (r : Realm σ) (c : ContextId) (enabled : Bool) : Realm σ :=
  r.update c (.setLogging enabled)

/-- Abandons a context and every one derived from it. -/
def cancel (r : Realm σ) (c : ContextId) : Realm σ :=
  { r with contexts := r.contexts.mapIdx (fun i d =>
      if i = c ∨ d.lineage.contains c then d.cancel else d) }

/-- Whether a context was abandoned. -/
def isCancelled (r : Realm σ) (c : ContextId) : Bool := (r.context c).cancelled

/-! ## Records -/

/-- Logs a record through a context, if it logs: its log values, and the given fields over
them. -/
def emit (r : Realm σ) (c : ContextId) (level : LogLevel) (message : String)
    (fields : Entries Json) : Realm σ :=
  let ctx := r.context c
  if ctx.logging then
    { r with journal := r.journal.push (ctx.sink, ⟨level, message, ctx.logValues.overlay fields⟩) }
  else r

/-- Logs a record whose fields are texts. -/
def log (r : Realm σ) (c : ContextId) (level : LogLevel) (message : String)
    (fields : List (String × String)) : Realm σ :=
  r.emit c level message (textFields fields)

/-! ## Time -/

/-- Time passes. -/
def advance (r : Realm σ) (d : Duration) : Realm σ := { r with clock := r.clock.advance d }

/-- The wall time that a source shows. -/
def wallTime (r : Realm σ) : TimeSource → UInt64
  | .shared => r.clock.wall
  | .system => r.systemWall

/-- The whole milliseconds that a source shows since an earlier reading of the clock. -/
def millisSince (r : Realm σ) (source : TimeSource) (earlier : UInt64) : Nat :=
  match source with
  | .shared => r.clock.millisSince earlier
  | .system => 0

/-- Whether a deadline has come, which is a moment on the machine's timer; without one it never
does. -/
def isLate (r : Realm σ) (deadline : Option Nat) : Bool := deadline.any (· ≤ r.systemMillis)

@[simp] theorem isLate_none (r : Realm σ) : r.isLate none = false := rfl

/-- The longest sleep on the machine's timer: thirty years of 365 days, in milliseconds. -/
def longestMillis : Nat := 30 * 365 * 24 * 60 * 60 * 1000

/-- The whole milliseconds of a sleep on the machine's timer, which rounds up. -/
def timerMillis (d : Duration) : Nat := min ((d.nanos + 999999) / 1000000) longestMillis

/-- A whole sleep. -/
def sleep (r : Realm σ) (source : TimeSource) (d : Duration) : Realm σ :=
  let r := { r with rests := r.rests.push d }
  match source with
  | .shared => { r with clock := r.clock.sleep d }
  | .system => { r with systemMillis := r.systemMillis + timerMillis d }

/-- The interrupts that wait for somebody to wait are carried out. -/
def interrupt (r : Realm σ) : Realm σ :=
  r.interrupts.foldl (fun r c => r.cancel c) { r with interrupts := [] }

/-- Whether a wait is over before anything else happens. -/
def isInstant (source : TimeSource) (d : Duration) : Bool := source = .system && d.nanos = 0

/-- Waits unless the context is abandoned before the wait is over; tells whether the wait was
completed. -/
def wait (r : Realm σ) (source : TimeSource) (c : ContextId) (d : Duration) : Bool × Realm σ :=
  if r.isCancelled c then (false, r)
  else
    let r := if isInstant source d then r else r.interrupt
    if r.isCancelled c then (false, r) else (true, r.sleep source d)

/-! ## Duplicates -/

/-- Sets up a duplicate checker and lets a context know of it. -/
def useChecker (r : Realm σ) (c : ContextId) (cache : DuplicateCache) : Realm σ :=
  { r with checker := some cache }.setHandle c Key.duplicateChecker .checker

/-- Whether a payload is a duplicate, asked through a context that knows of the checker. -/
def isDuplicate (r : Realm σ) (c : ContextId) (payload : ByteArray) : Bool × Realm σ :=
  match r.checker with
  | some cache =>
    if (r.context c).hasChecker then
      let (hit, cache) := cache.check (digestOf payload) r.clock.wall
      (hit, { r with checker := some cache })
    else (false, r)
  | none => (false, r)

/-- Lets a payload come again, through a context that knows of the checker. -/
def forget (r : Realm σ) (c : ContextId) (payload : ByteArray) : Realm σ :=
  match r.checker with
  | some cache =>
    if (r.context c).hasChecker then
      { r with checker := some (cache.forget (digestOf payload)) }
    else r
  | none => r

/-! ## What a write leaves alone -/

theorem context_update_self (r : Realm σ) {c : ContextId} (h : c < r.contexts.size)
    (f : Context → Context) : (r.update c f).context c = f (r.context c) := by
  simp [context, update, Array.getD, h, Array.getElem_modify]

/-- A write to one context leaves every other as it is. -/
theorem context_update_ne (r : Realm σ) {c d : ContextId} (h : d ≠ c) (f : Context → Context) :
    (r.update c f).context d = r.context d := by
  by_cases hd : d < r.contexts.size
  · simp [context, update, Array.getD, hd, Array.getElem_modify, h.symm]
  · simp [context, update, Array.getD, hd]

/-- A new context leaves the others as they are. -/
theorem context_add_of_lt (r : Realm σ) {d : ContextId} (h : d < r.contexts.size) (c : Context) :
    (r.add c).2.context d = r.context d := by
  simp [context, add, Array.getD, h, Nat.lt_succ_of_lt h, Array.getElem_push_lt]

theorem context_add_self (r : Realm σ) (c : Context) : (r.add c).2.context (r.add c).1 = c := by
  simp [context, add, Array.getD]

@[simp] theorem context_emit (r : Realm σ) (c d : ContextId) (level : LogLevel) (message : String)
    (fields : Entries Json) : (r.emit c level message fields).context d = r.context d := by
  simp only [emit]
  split <;> rfl

@[simp] theorem context_log (r : Realm σ) (c d : ContextId) (level : LogLevel) (message : String)
    (fields : List (String × String)) : (r.log c level message fields).context d = r.context d :=
  context_emit ..

end Realm
end EventRelay
