import EventRelay.Proofs.Realm.Abandonment

/-!
# Work that stays with its own contexts

A piece of work that is given a context of its own leaves the contexts that were there before it as
they are: it writes to its own and to those that it makes. This module says so of each step, as long
as nobody waits to abandon anything.

* `Realm.Untouched`: from one realm to another by work that leaves the first contexts alone.
* `Realm.Closed`: the first contexts were derived from one another only.
* `update_untouched`, `openSpan_untouched`: writes to later contexts and spans.
* `wait_untouched`: a wait without interrupts. `cancel_untouched`: abandonment of a later context.
-/

namespace EventRelay
namespace Realm

variable {σ : Type} {n : Nat}

/-- From one realm to another by work that leaves the first contexts alone, leaves no interrupt
behind and leaves every catch that it entered. -/
structure Untouched (n : Nat) (r r' : Realm σ) : Prop where
  size_le : r.contexts.size ≤ r'.contexts.size
  context_eq : ∀ c < n, r'.context c = r.context c
  interrupts_eq : r'.interrupts = r.interrupts
  depth_eq : r'.capture.depth = r.capture.depth

/-- The first contexts were derived from one another only. -/
def Closed (n : Nat) (r : Realm σ) : Prop := ∀ c < n, ∀ a ∈ r.lineage c, a < n

namespace Untouched

variable {r r' r'' : Realm σ}

theorem of_eq (hc : r'.contexts = r.contexts) (hi : r'.interrupts = r.interrupts)
    (hd : r'.capture.depth = r.capture.depth) : Untouched n r r' :=
  ⟨Nat.le_of_eq (by rw [hc]), fun c _ => by rw [context, hc]; rfl, hi, hd⟩

theorem refl (r : Realm σ) : Untouched n r r := .of_eq rfl rfl rfl

theorem trans (h : Untouched n r r') (h' : Untouched n r' r'') : Untouched n r r'' where
  size_le := Nat.le_trans h.size_le h'.size_le
  context_eq c hc := (h'.context_eq c hc).trans (h.context_eq c hc)
  interrupts_eq := h'.interrupts_eq.trans h.interrupts_eq
  depth_eq := h'.depth_eq.trans h.depth_eq

theorem closed (h : Untouched n r r') (hr : r.Closed n) : r'.Closed n := by
  intro c hc a ha
  rw [lineage, h.context_eq c hc] at ha
  exact hr c hc a ha

theorem mapDownstream {τ : Type} (f : σ → τ) (h : Untouched n r r') :
    Untouched n (r.mapDownstream f) (r'.mapDownstream f) :=
  ⟨h.size_le, h.context_eq, h.interrupts_eq, h.depth_eq⟩

end Untouched

/-! ## Writes and new contexts -/

theorem update_untouched (r : Realm σ) {c : ContextId} (hc : n ≤ c) (f : Context → Context) :
    Untouched n r (r.update c f) :=
  ⟨by simp [update],
    fun _ hd => r.context_update_ne (Nat.ne_of_lt (Nat.lt_of_lt_of_le hd hc)) f, rfl, rfl⟩

theorem setId_untouched (r : Realm σ) {c : ContextId} (hc : n ≤ c) (id : String) :
    Untouched n r (r.setId c id) := r.update_untouched hc _

theorem setValue_untouched (r : Realm σ) {c : ContextId} (hc : n ≤ c) (name : String)
    (value : Json) : Untouched n r (r.setValue c name value) := r.update_untouched hc _

theorem setLogValue_untouched (r : Realm σ) {c : ContextId} (hc : n ≤ c) (name : String)
    (value : Json) : Untouched n r (r.setLogValue c name value) := r.update_untouched hc _

theorem derive_untouched (r : Realm σ) (hn : n ≤ r.contexts.size) (parent : ContextId) :
    Untouched n r (r.derive parent).2 := by
  obtain ⟨fresh, ids, he⟩ := r.derive_eq parent
  rw [he]
  refine ⟨by simp [add], fun c hc => ?_, rfl, rfl⟩
  exact context_add_of_lt { r with ids := ids } (Nat.lt_of_lt_of_le hc hn) _

/-- To abandon a later context reaches none of the first ones. -/
theorem cancel_untouched (r : Realm σ) (hn : n ≤ r.contexts.size) (hr : r.Closed n)
    {d : ContextId} (hd : n ≤ d) : Untouched n r (r.cancel d) := by
  refine ⟨by simp [cancel], fun c hc => ?_, rfl, rfl⟩
  rw [r.context_cancel d (Nat.lt_of_lt_of_le hc hn), if_neg]
  rintro (rfl | hmem)
  · exact Nat.not_lt.2 hd hc
  · exact Nat.not_lt.2 hd (hr c hc d (by simpa using hmem))

/-! ## Records, calls and traces -/

theorem emit_untouched (r : Realm σ) (c : ContextId) (level : LogLevel) (message : String)
    (fields : Entries Json) : Untouched n r (r.emit c level message fields) := by
  unfold emit
  dsimp only
  split
  · exact .of_eq rfl rfl rfl
  · exact .refl r

theorem log_untouched (r : Realm σ) (c : ContextId) (level : LogLevel) (message : String)
    (fields : List (String × String)) : Untouched n r (r.log c level message fields) :=
  r.emit_untouched c level message _

theorem told_untouched (r : Realm σ) (call : ObserverCall) : Untouched n r (r.told call) :=
  .of_eq rfl rfl rfl

theorem measure_untouched (r : Realm σ) (observer : Observer) (span : ContextId)
    (metric : String) (attributes : Attributes) (value : Int64) :
    Untouched n r (r.measure observer span metric attributes value) := by
  cases observer with
  | inert => exact told_untouched ..
  | tracing time => exact (told_untouched ..).trans (emit_untouched ..)

theorem closeSpan_untouched (r : Realm σ) (observer : Observer) (span : ContextId)
    (attributes : Attributes) (error : Option String) :
    Untouched n r (r.closeSpan observer span attributes error) := by
  cases observer with
  | inert => exact told_untouched ..
  | tracing time => cases error <;> exact (told_untouched ..).trans (emit_untouched ..)

theorem openSpan_untouched (r : Realm σ) (hn : n ≤ r.contexts.size) (parent : ContextId)
    (name : String) (attributes : Attributes) :
    Untouched n r (r.openSpan parent name attributes).2 := by
  obtain ⟨s, hs, h⟩ := r.openSpan_cases parent name attributes
  have hborn : Untouched n r s := by
    rw [hs]
    exact (r.derive_untouched hn parent).trans (told_untouched ..)
  obtain h | ⟨time, fields, h⟩ := h
  · rw [h]
    exact hborn
  · rw [h]
    exact ((hborn.trans (setValue_untouched _ hn _ _)).trans (setValue_untouched _ hn _ _)).trans
      (emit_untouched ..)

theorem raise_untouched (r : Realm σ) (payload : Payload) : Untouched n r (r.raise payload) := by
  unfold raise
  dsimp only
  split <;> exact .of_eq rfl rfl rfl

theorem reportPanic_untouched (r : Realm σ) (c : ContextId) (payload : Payload) :
    Untouched n r (r.reportPanic c payload) := by
  cases ht : r.capture.trace with
  | none =>
    simp only [reportPanic, ht]
    refine Untouched.trans ?_ (log_untouched r.takeTrace.2 c _ _ _)
    exact .of_eq rfl rfl rfl
  | some trace =>
    simp only [reportPanic, ht]
    refine Untouched.trans ?_
      (log_untouched { r with capture := { r.capture with trace := none } } c _ _ _)
    exact .of_eq rfl rfl rfl

/-- Work under a catch, if it would not touch the first contexts without one. -/
theorem contain_untouched {α : Type u} {r : Realm σ} (c : ContextId)
    {work : Realm σ → Outcome α × Realm σ} (h : Untouched n r.enter (work r.enter).2) :
    Untouched n r (r.contain c work).2 := by
  unfold contain
  dsimp only
  generalize work r.enter = done at h ⊢
  obtain ⟨outcome, s⟩ := done
  have hleft : Untouched n r s.leave := by
    refine ⟨h.size_le, h.context_eq, h.interrupts_eq, ?_⟩
    show s.capture.depth - 1 = r.capture.depth
    rw [h.depth_eq]
    exact Nat.add_sub_cancel _ _
  cases outcome with
  | returned a => exact hleft
  | panicked payload => exact hleft.trans (reportPanic_untouched ..)
  | hung => exact hleft

/-! ## Waits and questions to the cache -/

/-- Where nothing is to be abandoned, a wait leaves every context alone. -/
theorem wait_untouched {r : Realm σ} (hr : r.interrupts = []) (source : TimeSource)
    (c : ContextId) (d : Duration) : Untouched n r (r.wait source c d).2 := by
  have hnone : r.interrupt = r := by
    unfold interrupt
    rw [hr, List.foldl_nil, ← hr]
  obtain ⟨r', hr', h⟩ := r.wait_cases source c d
  obtain rfl : r' = r := by
    obtain h | h := hr'
    · exact h
    · exact h.trans hnone
  obtain ⟨-, hw⟩ | ⟨-, hw⟩ := h
  · rw [hw]
    exact .refl r'
  · obtain ⟨clock, millis, hs⟩ := r'.sleep_eq source d
    rw [hw, hs]
    exact .of_eq rfl rfl rfl

theorem isDuplicate_untouched (r : Realm σ) (c : ContextId) (payload : ByteArray) :
    Untouched n r (r.isDuplicate c payload).2 := by
  unfold isDuplicate
  split
  · split
    · exact .of_eq rfl rfl rfl
    · exact .refl r
  · exact .refl r

theorem forget_untouched (r : Realm σ) (c : ContextId) (payload : ByteArray) :
    Untouched n r (r.forget c payload) := by
  unfold forget
  split
  · split
    · exact .of_eq rfl rfl rfl
    · exact .refl r
  · exact .refl r

end Realm
end EventRelay
