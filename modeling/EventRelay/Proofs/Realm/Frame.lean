import EventRelay.Realm.Panic
import EventRelay.Realm.Span

/-!
# What a step leaves as it was

Most steps of an instance only write to the bags of contexts, make contexts, and keep records and
calls. This module says of each such step what it leaves alone, so that a longer piece of work is
judged by its parts.

* `Realm.Extends`: no context is lost, and the same ones know of the duplicate cache.
* `Realm.Retains`: moreover the cache itself is untouched.
* `Realm.Quiet`: moreover no clock moves, nobody sleeps or is abandoned, and what lies downstream is
  untouched.
* `openSpan_quiet`, `measure_quiet`, `closeSpan_quiet`, `log_quiet`, `reportPanic_quiet`: the steps
  around a piece of work are quiet.
* `wait_cases`: what a wait does; `wait_completed` and `wait_abandoned` are its two ends.
-/

namespace EventRelay
namespace Realm

variable {σ : Type}

/-- No context is lost, and of those that there were the same ones know of the duplicate cache. -/
structure Extends (r r' : Realm σ) : Prop where
  size_le : r.contexts.size ≤ r'.contexts.size
  hasChecker_eq : ∀ c < r.contexts.size, (r'.context c).hasChecker = (r.context c).hasChecker

/-- Neither a context nor the duplicate cache is lost or changed. -/
structure Retains (r r' : Realm σ) : Prop extends Extends r r' where
  checker_eq : r'.checker = r.checker

/-- Nothing but bags, new contexts, records, calls and traces is different. -/
structure Quiet (r r' : Realm σ) : Prop where
  size_le : r.contexts.size ≤ r'.contexts.size
  handles_eq : ∀ c < r.contexts.size, (r'.context c).handles = (r.context c).handles
  cancelled_eq : ∀ c < r.contexts.size, r'.isCancelled c = r.isCancelled c
  clock_eq : r'.clock = r.clock
  millis_eq : r'.systemMillis = r.systemMillis
  rests_eq : r'.rests = r.rests
  interrupts_eq : r'.interrupts = r.interrupts
  checker_eq : r'.checker = r.checker
  downstream_eq : r'.downstream = r.downstream

namespace Extends

variable {r r' r'' : Realm σ}

theorem refl (r : Realm σ) : Extends r r := ⟨Nat.le_refl _, fun _ _ => rfl⟩

theorem trans (h : Extends r r') (h' : Extends r' r'') : Extends r r'' where
  size_le := Nat.le_trans h.size_le h'.size_le
  hasChecker_eq c hc :=
    (h'.hasChecker_eq c (Nat.lt_of_lt_of_le hc h.size_le)).trans (h.hasChecker_eq c hc)

theorem of_contexts_eq (h : r'.contexts = r.contexts) : Extends r r' := by
  refine ⟨Nat.le_of_eq (by rw [h]), fun c _ => ?_⟩
  rw [context, h]
  rfl

end Extends

namespace Retains

variable {r r' r'' : Realm σ}

theorem refl (r : Realm σ) : Retains r r := ⟨.refl r, rfl⟩

theorem trans (h : Retains r r') (h' : Retains r' r'') : Retains r r'' :=
  ⟨h.toExtends.trans h'.toExtends, h'.checker_eq.trans h.checker_eq⟩

/-- A step that touches neither contexts nor cache. -/
theorem of_eq (hc : r'.contexts = r.contexts) (hd : r'.checker = r.checker) : Retains r r' :=
  ⟨.of_contexts_eq hc, hd⟩

end Retains

namespace Quiet

variable {r r' r'' : Realm σ}

theorem refl (r : Realm σ) : Quiet r r :=
  ⟨Nat.le_refl _, fun _ _ => rfl, fun _ _ => rfl, rfl, rfl, rfl, rfl, rfl, rfl⟩

theorem trans (h : Quiet r r') (h' : Quiet r' r'') : Quiet r r'' where
  size_le := Nat.le_trans h.size_le h'.size_le
  handles_eq c hc := (h'.handles_eq c (Nat.lt_of_lt_of_le hc h.size_le)).trans (h.handles_eq c hc)
  cancelled_eq c hc :=
    (h'.cancelled_eq c (Nat.lt_of_lt_of_le hc h.size_le)).trans (h.cancelled_eq c hc)
  clock_eq := h'.clock_eq.trans h.clock_eq
  millis_eq := h'.millis_eq.trans h.millis_eq
  rests_eq := h'.rests_eq.trans h.rests_eq
  interrupts_eq := h'.interrupts_eq.trans h.interrupts_eq
  checker_eq := h'.checker_eq.trans h.checker_eq
  downstream_eq := h'.downstream_eq.trans h.downstream_eq

/-- A step that touches neither contexts nor clocks nor what they lead to is quiet. -/
theorem of_eq (hc : r'.contexts = r.contexts) (hk : r'.clock = r.clock)
    (hm : r'.systemMillis = r.systemMillis) (hr : r'.rests = r.rests)
    (hi : r'.interrupts = r.interrupts) (hd : r'.checker = r.checker)
    (ho : r'.downstream = r.downstream) : Quiet r r' := by
  refine ⟨Nat.le_of_eq (by rw [hc]), fun c _ => ?_, fun c _ => ?_, hk, hm, hr, hi, hd, ho⟩
  · rw [context, hc]; rfl
  · rw [isCancelled, context, hc]; rfl

/-- A deadline comes no sooner and no later. -/
theorem isLate_eq (h : Quiet r r') (deadline : Option Nat) :
    r'.isLate deadline = r.isLate deadline := by
  rw [isLate, h.millis_eq, isLate]

theorem retains (h : Quiet r r') : Retains r r' where
  size_le := h.size_le
  hasChecker_eq c hc := by rw [Context.hasChecker, Context.handle?, h.handles_eq c hc]; rfl
  checker_eq := h.checker_eq

end Quiet

/-! ## Writes to contexts -/

/-- A write changes no context but the one that it is for. -/
theorem context_update_cases (r : Realm σ) (d c : ContextId) (f : Context → Context) :
    (r.update d f).context c = r.context c ∨
      d = c ∧ (r.update d f).context c = f (r.context c) := by
  by_cases hdc : d = c
  · subst hdc
    by_cases hd : d < r.contexts.size
    · exact .inr ⟨rfl, r.context_update_self hd f⟩
    · exact .inl (by simp [context, update, Array.getD, hd])
  · exact .inl (context_update_ne r (Ne.symm hdc) f)

/-- What a write leaves alone in every context it leaves alone in the realm. -/
theorem update_congr {α : Type} (g : Context → α) {f : Context → Context} (hf : ∀ x, g (f x) = g x)
    (r : Realm σ) (d c : ContextId) : g ((r.update d f).context c) = g (r.context c) := by
  rcases r.context_update_cases d c f with h | ⟨-, h⟩
  · rw [h]
  · rw [h, hf]

/-- A write that leaves the handles and the abandonment of its context alone is quiet. -/
theorem update_quiet (r : Realm σ) (c : ContextId) {f : Context → Context}
    (hh : ∀ x, (f x).handles = x.handles) (hc : ∀ x, (f x).cancelled = x.cancelled) :
    Quiet r (r.update c f) where
  size_le := by simp [update]
  handles_eq d _ := r.update_congr Context.handles hh c d
  cancelled_eq d _ := r.update_congr Context.cancelled hc c d
  clock_eq := rfl
  millis_eq := rfl
  rests_eq := rfl
  interrupts_eq := rfl
  checker_eq := rfl
  downstream_eq := rfl

theorem setId_quiet (r : Realm σ) (c : ContextId) (id : String) : Quiet r (r.setId c id) :=
  r.update_quiet c (fun _ => rfl) (fun _ => rfl)

theorem setValue_quiet (r : Realm σ) (c : ContextId) (name : String) (value : Json) :
    Quiet r (r.setValue c name value) :=
  r.update_quiet c (fun _ => rfl) (fun _ => rfl)

theorem setLogValue_quiet (r : Realm σ) (c : ContextId) (name : String) (value : Json) :
    Quiet r (r.setLogValue c name value) :=
  r.update_quiet c (fun _ => rfl) (fun _ => rfl)

theorem add_quiet (r : Realm σ) (c : Context) : Quiet r (r.add c).2 where
  size_le := by simp [add]
  handles_eq d hd := by rw [context_add_of_lt r hd]
  cancelled_eq d hd := by rw [isCancelled, context_add_of_lt r hd]; rfl
  clock_eq := rfl
  millis_eq := rfl
  rests_eq := rfl
  interrupts_eq := rfl
  checker_eq := rfl
  downstream_eq := rfl

/-- A derived context stands at the next place. -/
theorem derive_eq (r : Realm σ) (parent : ContextId) :
    ∃ fresh ids, r.derive parent =
      { r with ids := ids }.add ((r.context parent).derived parent fresh) := by
  unfold derive
  by_cases h : (r.context parent).id.isEmpty
  · exact ⟨r.ids.mint.1, r.ids.mint.2, by simp [h]⟩
  · exact ⟨"", r.ids, by simp [h]⟩

theorem derive_quiet (r : Realm σ) (parent : ContextId) : Quiet r (r.derive parent).2 := by
  obtain ⟨fresh, ids, he⟩ := r.derive_eq parent
  rw [he]
  refine Quiet.trans ?_ (add_quiet { r with ids := ids } ((r.context parent).derived parent fresh))
  exact .of_eq rfl rfl rfl rfl rfl rfl rfl

@[simp] theorem derive_fst (r : Realm σ) (parent : ContextId) :
    (r.derive parent).1 = r.contexts.size := by
  obtain ⟨fresh, ids, he⟩ := r.derive_eq parent
  rw [he]; rfl

@[simp] theorem size_derive (r : Realm σ) (parent : ContextId) :
    (r.derive parent).2.contexts.size = r.contexts.size + 1 := by
  obtain ⟨fresh, ids, he⟩ := r.derive_eq parent
  rw [he]; simp [add]

theorem context_derive (r : Realm σ) (parent : ContextId) :
    ∃ fresh, (r.derive parent).2.context r.contexts.size =
      (r.context parent).derived parent fresh := by
  obtain ⟨fresh, ids, he⟩ := r.derive_eq parent
  exact ⟨fresh, by rw [he]; exact context_add_self { r with ids := ids } _⟩

/-! ## Records, calls and traces -/

theorem emit_quiet (r : Realm σ) (c : ContextId) (level : LogLevel) (message : String)
    (fields : Entries Json) : Quiet r (r.emit c level message fields) := by
  unfold emit
  dsimp only
  split
  · exact .of_eq rfl rfl rfl rfl rfl rfl rfl
  · exact .refl r

theorem log_quiet (r : Realm σ) (c : ContextId) (level : LogLevel) (message : String)
    (fields : List (String × String)) : Quiet r (r.log c level message fields) :=
  r.emit_quiet c level message _

theorem told_quiet (r : Realm σ) (call : ObserverCall) : Quiet r (r.told call) :=
  .of_eq rfl rfl rfl rfl rfl rfl rfl

theorem enter_quiet (r : Realm σ) : Quiet r r.enter := .of_eq rfl rfl rfl rfl rfl rfl rfl

theorem leave_quiet (r : Realm σ) : Quiet r r.leave := .of_eq rfl rfl rfl rfl rfl rfl rfl

theorem reportPanic_quiet (r : Realm σ) (c : ContextId) (payload : Payload) :
    Quiet r (r.reportPanic c payload) := by
  cases ht : r.capture.trace with
  | none =>
    simp only [reportPanic, ht]
    refine Quiet.trans ?_ (log_quiet r.takeTrace.2 c _ _ _)
    exact .of_eq rfl rfl rfl rfl rfl rfl rfl
  | some trace =>
    simp only [reportPanic, ht]
    refine Quiet.trans ?_ (log_quiet { r with capture := { r.capture with trace := none } } c _ _ _)
    exact .of_eq rfl rfl rfl rfl rfl rfl rfl

/-! ## Spans -/

/-- A span is a derived context of which an observer is told; one that logs also notes its start
and its name. -/
theorem openSpan_cases (r : Realm σ) (parent : ContextId) (name : String)
    (attributes : Attributes) :
    ∃ s, s = (r.derive parent).2.told
        (.started parent (r.derive parent).1 name attributes) ∧
      (r.openSpan parent name attributes = (r.contexts.size, s) ∨
        ∃ time fields, r.openSpan parent name attributes = (r.contexts.size,
          ((s.setValue r.contexts.size Key.startTime (.ofUInt64 (s.wallTime time))).setValue
            r.contexts.size Key.spanName (.str name)).emit r.contexts.size .debug "span started"
              fields)) := by
  refine ⟨_, rfl, ?_⟩
  rw [← r.derive_fst parent]
  cases ho : r.observerOf parent with
  | inert => exact .inl (by simp only [openSpan, ho])
  | tracing time =>
    exact .inr ⟨time, (textFields attributes).insert "span" (.str name), by
      simp only [openSpan, ho]⟩

theorem openSpan_quiet (r : Realm σ) (parent : ContextId) (name : String)
    (attributes : Attributes) : Quiet r (r.openSpan parent name attributes).2 := by
  obtain ⟨s, hs, h⟩ := r.openSpan_cases parent name attributes
  have hq : Quiet r s := by
    rw [hs]
    exact (r.derive_quiet parent).trans (told_quiet _ _)
  obtain h | ⟨time, fields, h⟩ := h
  · rw [h]
    exact hq
  · rw [h]
    refine Quiet.trans ?_ (emit_quiet _ _ _ _ _)
    exact (hq.trans (setValue_quiet _ _ _ _)).trans (setValue_quiet _ _ _ _)

/-- A span stands at the next place. -/
@[simp] theorem openSpan_fst (r : Realm σ) (parent : ContextId) (name : String)
    (attributes : Attributes) : (r.openSpan parent name attributes).1 = r.contexts.size := by
  obtain ⟨s, -, h | ⟨time, fields, h⟩⟩ := r.openSpan_cases parent name attributes <;> rw [h]

/-- What the context of a span starts as: a derived context, with the start and the name of the
span among its values if somebody is told of them. -/
theorem context_openSpan (r : Realm σ) (parent : ContextId) (name : String)
    (attributes : Attributes) :
    r.contexts.size < (r.openSpan parent name attributes).2.contexts.size ∧
      ∃ fresh values, (r.openSpan parent name attributes).2.context r.contexts.size =
        { (r.context parent).derived parent fresh with values := values } := by
  obtain ⟨s, hs, h⟩ := r.openSpan_cases parent name attributes
  obtain ⟨fresh, hd⟩ := r.context_derive parent
  have hlt : r.contexts.size < s.contexts.size := by
    rw [hs]
    show _ < (r.derive parent).2.contexts.size
    rw [size_derive]
    exact Nat.lt_succ_self _
  have hc : s.context r.contexts.size = (r.context parent).derived parent fresh := by
    rw [hs]
    exact hd
  obtain h | ⟨time, fields, h⟩ := h
  · rw [h]
    exact ⟨hlt, fresh, _, hc⟩
  · rw [h]
    have h₁ := s.setValue_quiet r.contexts.size Key.startTime (.ofUInt64 (s.wallTime time))
    have hlt' := Nat.lt_of_lt_of_le hlt h₁.size_le
    refine ⟨Nat.lt_of_lt_of_le hlt' (Quiet.trans (setValue_quiet _ _ _ _)
      (emit_quiet _ _ _ _ _)).size_le, fresh, ?_⟩
    simp only [context_emit]
    rw [setValue, context_update_self _ hlt', setValue, context_update_self _ hlt, hc]
    exact ⟨_, rfl⟩

theorem measure_quiet (r : Realm σ) (observer : Observer) (span : ContextId) (metric : String)
    (attributes : Attributes) (value : Int64) :
    Quiet r (r.measure observer span metric attributes value) := by
  unfold measure
  dsimp only
  split
  · exact told_quiet ..
  · exact (told_quiet ..).trans (emit_quiet ..)

theorem closeSpan_quiet (r : Realm σ) (observer : Observer) (span : ContextId)
    (attributes : Attributes) (error : Option String) :
    Quiet r (r.closeSpan observer span attributes error) := by
  unfold closeSpan
  dsimp only
  split
  · exact told_quiet ..
  · split <;> exact (told_quiet ..).trans (emit_quiet ..)

theorem setHandle_self (r : Realm σ) {c : ContextId} (hc : c < r.contexts.size) (name : String)
    (handle : Handle) : ((r.setHandle c name handle).context c).handle? name = some handle := by
  rw [setHandle, context_update_self r hc]
  exact Context.handle?_setHandle _ _ _

/-! ## Waits -/

theorem cancel_retains (r : Realm σ) (c : ContextId) : Retains r (r.cancel c) := by
  have hget : ∀ d < r.contexts.size, (r.cancel c).context d =
      if d = c ∨ (r.context d).lineage.contains c then (r.context d).cancel else r.context d := by
    intro d hd
    simp [context, cancel, Array.getD, hd]
  refine ⟨⟨by simp [cancel], fun d hd => ?_⟩, rfl⟩
  rw [hget d hd]
  split <;> rfl

/-- The interrupts change contexts, and none is left. -/
theorem interrupt_shape (r : Realm σ) :
    ∃ contexts, r.interrupt = { r with contexts := contexts, interrupts := [] } := by
  have hfold : ∀ (cs : List ContextId) (s : Realm σ),
      ∃ contexts, cs.foldl (fun s c => s.cancel c) s = { s with contexts := contexts } := by
    intro cs
    induction cs with
    | nil => exact fun s => ⟨s.contexts, rfl⟩
    | cons c cs ih => exact fun s => ih (s.cancel c)
  exact hfold r.interrupts { r with interrupts := [] }

/-- To abandon contexts is neither to sleep nor to touch what lies downstream. -/
theorem interrupt_eq (r : Realm σ) :
    r.interrupt.rests = r.rests ∧ r.interrupt.downstream = r.downstream := by
  obtain ⟨contexts, h⟩ := r.interrupt_shape
  rw [h]
  exact ⟨rfl, rfl⟩

/-- A sleep is kept among the rests and moves one of the clocks. -/
theorem sleep_eq (r : Realm σ) (source : TimeSource) (d : Duration) : ∃ clock millis,
    r.sleep source d =
      { r with rests := r.rests.push d, clock := clock, systemMillis := millis } := by
  cases source with
  | shared => exact ⟨r.clock.sleep d, r.systemMillis, rfl⟩
  | system => exact ⟨r.clock, r.systemMillis + timerMillis d, rfl⟩

/-- A wait first carries out the interrupts, unless it is over at once; it then sleeps exactly when
its context is not abandoned. -/
theorem wait_cases (r : Realm σ) (source : TimeSource) (c : ContextId) (d : Duration) :
    ∃ r', (r' = r ∨ r' = r.interrupt) ∧
      (r'.isCancelled c = true ∧ r.wait source c d = (false, r') ∨
        r'.isCancelled c = false ∧ r.wait source c d = (true, r'.sleep source d)) := by
  by_cases hc : r.isCancelled c
  · exact ⟨r, .inl rfl, .inl ⟨hc, by rw [wait, if_pos hc]⟩⟩
  · refine ⟨if isInstant source d then r else r.interrupt, ?_, ?_⟩
    · split
      · exact .inl rfl
      · exact .inr rfl
    · rw [wait, if_neg hc]
      by_cases hc' : (if isInstant source d then r else r.interrupt).isCancelled c
      · exact .inl ⟨hc', if_pos hc'⟩
      · exact .inr ⟨Bool.eq_false_iff.2 hc', if_neg hc'⟩

/-- A completed wait is one sleep. -/
theorem wait_completed {r : Realm σ} {source : TimeSource} {c : ContextId} {d : Duration}
    (h : (r.wait source c d).1 = true) :
    (r.wait source c d).2.rests = r.rests.push d ∧
      (r.wait source c d).2.downstream = r.downstream := by
  obtain ⟨r', hr', ⟨-, hw⟩ | ⟨-, hw⟩⟩ := r.wait_cases source c d
  · rw [hw] at h
    cases h
  · have hkept : r'.rests = r.rests ∧ r'.downstream = r.downstream := by
      obtain rfl | rfl := hr'
      · exact ⟨rfl, rfl⟩
      · exact r.interrupt_eq
    obtain ⟨clock, millis, hs⟩ := r'.sleep_eq source d
    rw [hw, hs, ← hkept.1, ← hkept.2]
    exact ⟨rfl, rfl⟩

/-- A wait that is not completed was abandoned. -/
theorem wait_abandoned {r : Realm σ} {source : TimeSource} {c : ContextId} {d : Duration}
    (h : (r.wait source c d).1 = false) : (r.wait source c d).2.isCancelled c = true := by
  obtain ⟨r', -, ⟨hc, hw⟩ | ⟨-, hw⟩⟩ := r.wait_cases source c d
  · rw [hw]
    exact hc
  · rw [hw] at h
    cases h

/-- A wait does not touch what lies downstream. -/
theorem downstream_wait (r : Realm σ) (source : TimeSource) (c : ContextId) (d : Duration) :
    (r.wait source c d).2.downstream = r.downstream := by
  obtain ⟨r', hr', h⟩ := r.wait_cases source c d
  have hkept : r'.downstream = r.downstream := by
    obtain rfl | rfl := hr'
    · rfl
    · exact r.interrupt_eq.2
  obtain ⟨-, hw⟩ | ⟨-, hw⟩ := h
  · rw [hw]
    exact hkept
  · obtain ⟨clock, millis, hs⟩ := r'.sleep_eq source d
    rw [hw, hs]
    exact hkept

/-- What holds of a cancellation, and of a step that only moves clocks, holds of a wait. -/
theorem wait_lift {R : Realm σ → Realm σ → Prop}
    (htrans : ∀ {r s s'}, R r s → R s s' → R r s') (hcancel : ∀ r c, R r (r.cancel c))
    (hstill : ∀ (r : Realm σ) clock millis rests interrupts, R r
      { r with clock := clock, systemMillis := millis, rests := rests, interrupts := interrupts })
    (r : Realm σ) (source : TimeSource) (c : ContextId) (d : Duration) :
    R r (r.wait source c d).2 := by
  have hrefl : ∀ r, R r r := fun r => hstill r r.clock r.systemMillis r.rests r.interrupts
  have hfold : ∀ (cs : List ContextId) (s : Realm σ), R s (cs.foldl (fun s c => s.cancel c) s) := by
    intro cs
    induction cs with
    | nil => exact hrefl
    | cons c cs ih => exact fun s => htrans (hcancel s c) (ih _)
  have hinterrupt : R r r.interrupt :=
    htrans (hstill r r.clock r.systemMillis r.rests []) (hfold r.interrupts _)
  obtain ⟨r', hr', h⟩ := r.wait_cases source c d
  have hkept : R r r' := by
    obtain rfl | rfl := hr'
    · exact hrefl _
    · exact hinterrupt
  obtain ⟨-, hw⟩ | ⟨-, hw⟩ := h
  · rw [hw]
    exact hkept
  · obtain ⟨clock, millis, hs⟩ := r'.sleep_eq source d
    rw [hw, hs]
    exact htrans hkept (hstill r' clock millis (r'.rests.push d) r'.interrupts)

theorem wait_retains (r : Realm σ) (source : TimeSource) (c : ContextId) (d : Duration) :
    Retains r (r.wait source c d).2 :=
  wait_lift .trans cancel_retains (fun _ _ _ _ _ => .of_eq rfl rfl) r source c d

end Realm
end EventRelay
