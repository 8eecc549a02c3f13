import EventRelay.Realm.Panic
import EventRelay.Realm.Span

/-!
# What lies downstream does not matter

The steps of an instance carry the state of what lies downstream along and never look at it, so
that another view of that state may be put in its place before a step or after it.

* `Realm.mapDownstream`: another view of what lies downstream.
* `openSpan_mapDownstream`, `measure_mapDownstream`, `closeSpan_mapDownstream`,
  `wait_mapDownstream`, `isDuplicate_mapDownstream`, `reportPanic_mapDownstream`: the steps do the
  same under another view.
-/

namespace EventRelay
namespace Realm

variable {σ τ : Type}

/-- The same realm with another view of what lies downstream. -/
def mapDownstream (f : σ → τ) (r : Realm σ) : Realm τ :=
  { r with downstream := f r.downstream }

variable (f : σ → τ)

@[simp] theorem context_mapDownstream (r : Realm σ) (c : ContextId) :
    (r.mapDownstream f).context c = r.context c := rfl

@[simp] theorem observerOf_mapDownstream (r : Realm σ) (c : ContextId) :
    (r.mapDownstream f).observerOf c = r.observerOf c := rfl

@[simp] theorem setLogValue_mapDownstream (r : Realm σ) (c : ContextId) (name : String)
    (value : Json) :
    (r.mapDownstream f).setLogValue c name value = (r.setLogValue c name value).mapDownstream f :=
  rfl

@[simp] theorem setId_mapDownstream (r : Realm σ) (c : ContextId) (id : String) :
    (r.mapDownstream f).setId c id = (r.setId c id).mapDownstream f := rfl

@[simp] theorem setValue_mapDownstream (r : Realm σ) (c : ContextId) (name : String)
    (value : Json) :
    (r.mapDownstream f).setValue c name value = (r.setValue c name value).mapDownstream f :=
  rfl

@[simp] theorem emit_mapDownstream (r : Realm σ) (c : ContextId) (level : LogLevel)
    (message : String) (fields : Entries Json) :
    (r.mapDownstream f).emit c level message fields =
      (r.emit c level message fields).mapDownstream f := by
  unfold emit
  rw [context_mapDownstream]
  dsimp only
  split <;> rfl

@[simp] theorem log_mapDownstream (r : Realm σ) (c : ContextId) (level : LogLevel)
    (message : String) (fields : List (String × String)) :
    (r.mapDownstream f).log c level message fields =
      (r.log c level message fields).mapDownstream f :=
  emit_mapDownstream f r c level message _

theorem millisSince_mapDownstream (r : Realm σ) (source : TimeSource) (earlier : UInt64) :
    (r.mapDownstream f).millisSince source earlier = r.millisSince source earlier := by
  cases source <;> rfl

/-! ## Spans -/

@[simp] theorem told_mapDownstream (r : Realm σ) (call : ObserverCall) :
    (r.mapDownstream f).told call = (r.told call).mapDownstream f := rfl

theorem derive_mapDownstream (r : Realm σ) (parent : ContextId) :
    (r.mapDownstream f).derive parent =
      ((r.derive parent).1, (r.derive parent).2.mapDownstream f) := by
  unfold derive
  rw [context_mapDownstream]
  by_cases h : (r.context parent).id.isEmpty
  · simp only [h, if_true]
    rfl
  · simp only [h]
    rfl

@[simp] theorem wallTime_mapDownstream (r : Realm σ) (time : TimeSource) :
    (r.mapDownstream f).wallTime time = r.wallTime time := by
  cases time <;> rfl

theorem openSpan_mapDownstream (r : Realm σ) (parent : ContextId) (name : String)
    (attributes : Attributes) :
    (r.mapDownstream f).openSpan parent name attributes =
      ((r.openSpan parent name attributes).1,
        (r.openSpan parent name attributes).2.mapDownstream f) := by
  have ho : (r.mapDownstream f).observerOf parent = r.observerOf parent := rfl
  cases h : r.observerOf parent with
  | inert =>
    simp only [openSpan, derive_mapDownstream, ho, h, told_mapDownstream]
  | tracing time =>
    simp only [openSpan, derive_mapDownstream, ho, h, told_mapDownstream, wallTime_mapDownstream,
      setValue_mapDownstream, emit_mapDownstream]

theorem measure_mapDownstream (r : Realm σ) (observer : Observer) (span : ContextId)
    (metric : String) (attributes : Attributes) (value : Int64) :
    (r.mapDownstream f).measure observer span metric attributes value =
      (r.measure observer span metric attributes value).mapDownstream f := by
  cases observer with
  | inert => rfl
  | tracing time => exact emit_mapDownstream f (r.told _) span .info _ _

theorem closeSpan_mapDownstream (r : Realm σ) (observer : Observer) (span : ContextId)
    (attributes : Attributes) (error : Option String) :
    (r.mapDownstream f).closeSpan observer span attributes error =
      (r.closeSpan observer span attributes error).mapDownstream f := by
  cases observer with
  | inert => rfl
  | tracing time =>
    have hs : ((r.mapDownstream f).told (.ended span attributes error)).spanFields time span
        (textFields attributes) =
        (r.told (.ended span attributes error)).spanFields time span (textFields attributes) := by
      cases time <;> rfl
    cases error with
    | none =>
      simp only [closeSpan, hs]
      exact emit_mapDownstream f (r.told _) span .debug _ _
    | some text =>
      simp only [closeSpan, hs]
      exact emit_mapDownstream f (r.told _) span .warn _ _

/-! ## Waits -/

theorem interrupt_mapDownstream (r : Realm σ) :
    (r.mapDownstream f).interrupt = r.interrupt.mapDownstream f := by
  have hfold : ∀ (cs : List ContextId) (s : Realm σ),
      cs.foldl (fun s c => s.cancel c) (s.mapDownstream f) =
        (cs.foldl (fun s c => s.cancel c) s).mapDownstream f := by
    intro cs
    induction cs with
    | nil => exact fun s => rfl
    | cons c cs ih => exact fun s => ih (s.cancel c)
  exact hfold r.interrupts { r with interrupts := [] }

theorem sleep_mapDownstream (r : Realm σ) (source : TimeSource) (d : Duration) :
    (r.mapDownstream f).sleep source d = (r.sleep source d).mapDownstream f := by
  -- For any numbers of milliseconds, so that the real ones are never computed.
  have h : ∀ (clock : Clock) (millis : Nat),
      { r.mapDownstream f with rests := r.rests.push d, clock := clock, systemMillis := millis } =
        { r with rests := r.rests.push d, clock := clock,
                 systemMillis := millis }.mapDownstream f :=
    fun _ _ => rfl
  cases source with
  | shared => exact h _ _
  | system => exact h _ _

theorem wait_mapDownstream (r : Realm σ) (source : TimeSource) (c : ContextId) (d : Duration) :
    (r.mapDownstream f).wait source c d =
      ((r.wait source c d).1, (r.wait source c d).2.mapDownstream f) := by
  have hc : ∀ s : Realm σ, (s.mapDownstream f).isCancelled c = s.isCancelled c := fun _ => rfl
  have hi : (if isInstant source d then r.mapDownstream f else (r.mapDownstream f).interrupt) =
      (if isInstant source d then r else r.interrupt).mapDownstream f := by
    rw [interrupt_mapDownstream]
    split <;> rfl
  simp only [wait, hi, hc, sleep_mapDownstream]
  by_cases h : r.isCancelled c = true
  · simp only [if_pos h]
  · simp only [if_neg h]
    generalize (if isInstant source d = true then r else r.interrupt) = s
    by_cases hs : s.isCancelled c = true
    · simp only [if_pos hs]
    · simp only [if_neg hs]

/-! ## Duplicates -/

theorem isDuplicate_mapDownstream (r : Realm σ) (c : ContextId) (payload : ByteArray) :
    (r.mapDownstream f).isDuplicate c payload =
      ((r.isDuplicate c payload).1, (r.isDuplicate c payload).2.mapDownstream f) := by
  unfold isDuplicate
  rw [context_mapDownstream, show (r.mapDownstream f).checker = r.checker from rfl]
  cases r.checker with
  | none => rfl
  | some cache =>
    dsimp only
    by_cases h : (r.context c).hasChecker = true
    · rw [if_pos h, if_pos h]
      rfl
    · rw [if_neg h, if_neg h]

@[simp] theorem forget_mapDownstream (r : Realm σ) (c : ContextId) (payload : ByteArray) :
    (r.mapDownstream f).forget c payload = (r.forget c payload).mapDownstream f := by
  unfold forget
  rw [context_mapDownstream, show (r.mapDownstream f).checker = r.checker from rfl]
  cases r.checker with
  | none => rfl
  | some cache =>
    dsimp only
    by_cases h : (r.context c).hasChecker = true
    · rw [if_pos h, if_pos h]
      rfl
    · rw [if_neg h, if_neg h]

/-! ## Panics -/

@[simp] theorem enter_mapDownstream (r : Realm σ) :
    (r.mapDownstream f).enter = r.enter.mapDownstream f := rfl

@[simp] theorem leave_mapDownstream (r : Realm σ) :
    (r.mapDownstream f).leave = r.leave.mapDownstream f := rfl

@[simp] theorem reportPanic_mapDownstream (r : Realm σ) (c : ContextId) (payload : Payload) :
    (r.mapDownstream f).reportPanic c payload = (r.reportPanic c payload).mapDownstream f := by
  unfold reportPanic
  rw [show (r.mapDownstream f).capture = r.capture from rfl]
  cases r.capture.trace with
  | none => exact log_mapDownstream f r.takeTrace.2 c .error _ _
  | some trace =>
    exact log_mapDownstream f { r with capture := { r.capture with trace := none } } c .error _ _

end Realm
end EventRelay
