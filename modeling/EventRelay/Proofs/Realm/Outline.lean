import EventRelay.Proofs.Realm.Frame

/-!
# What decides the next step

What stands in the bags of contexts, what was recorded and what observers were told never decides
what an instance does next. This module leaves these out of a realm, and of what lies downstream all
but a view of it, and says of each step that it does the same with what is left.

* `Realm.outline`: what is left. `Realm.Alike`: two realms of which the same is left.
* `setValue_outline`, `setLogValue_outline`, `emit_outline`, `measure_outline`,
  `closeSpan_outline`: steps that leave the outline as it was.
* `wait_outline`, `isDuplicate_outline`, `forget_outline`: steps that are the same in the outline.
* `Alike.derive`, `Alike.openSpan`, `Alike.reportPanic`: alike realms stay alike.
-/

namespace EventRelay

/-- A context without what stands in its bags of values and log values. -/
def Context.outline (c : Context) : Context := { c with values := [], logValues := [] }

namespace Realm

variable {σ τ : Type} (view : σ → τ)

/-- A realm without what stands in the bags, what was recorded and what observers were told, and
with no more than a view of what lies downstream. -/
def outline (r : Realm σ) : Realm τ :=
  { r with contexts := r.contexts.map Context.outline, journal := #[], calls := #[],
           downstream := view r.downstream }

/-- Realms that differ in bags, records, calls and what the view does not show, at most. -/
def Alike (r r' : Realm σ) : Prop := r.outline view = r'.outline view

/-- Results of work that are the same, in realms that are alike. -/
def Agree {α : Type u} (x y : α × Realm σ) : Prop := x.1 = y.1 ∧ Alike view x.2 y.2

theorem context_outline (r : Realm σ) (c : ContextId) :
    (r.outline view).context c = (r.context c).outline := by
  by_cases hc : c < r.contexts.size
  · simp [context, outline, Array.getD, hc]
  · have hc' : ¬ c < (r.outline view).contexts.size := by simpa [outline] using hc
    rw [context, context, Array.getD, Array.getD, dif_neg hc, dif_neg hc']
    rfl

theorem outline_outline (r : Realm σ) : (r.outline view).outline id = r.outline view := by
  have h : Context.outline ∘ Context.outline = Context.outline := rfl
  simp only [outline, Array.map_map, h, id]

theorem withCapture_outline (r : Realm σ) (capture : Capture) :
    ({ r with capture := capture } : Realm σ).outline view =
      ({ r.outline view with capture := capture } : Realm τ).outline id := by
  show ({ r.outline view with capture := capture } : Realm τ) =
    { (r.outline view).outline id with capture := capture }
  rw [outline_outline]

/-! ## Writes -/

/-- A write does to the outline what it does to the outline of its context. -/
theorem update_outline {f g : Context → Context} (hf : ∀ x, (f x).outline = g x.outline)
    (r : Realm σ) (c : ContextId) : (r.update c f).outline view = (r.outline view).update c g := by
  have h : (r.contexts.modify c f).map Context.outline =
      (r.contexts.map Context.outline).modify c g := by
    refine Array.ext (by simp) fun i h₁ h₂ => ?_
    simp only [Array.getElem_map, Array.getElem_modify]
    split
    · exact hf _
    · rfl
  simp only [outline, update, h]

theorem update_outline_of_eq {f : Context → Context} (hf : ∀ x, (f x).outline = x.outline)
    (r : Realm σ) (c : ContextId) : (r.update c f).outline view = r.outline view := by
  rw [update_outline view (g := id) hf r c]
  have h : (r.outline view).contexts.modify c id = (r.outline view).contexts := by
    refine Array.ext (by simp) fun i h₁ h₂ => ?_
    simp only [Array.getElem_modify, id, ite_self]
  simp only [update, h]

@[simp] theorem setValue_outline (r : Realm σ) (c : ContextId) (name : String) (value : Json) :
    (r.setValue c name value).outline view = r.outline view :=
  update_outline_of_eq view (f := Context.setValue name value) (fun _ => rfl) r c

@[simp] theorem setLogValue_outline (r : Realm σ) (c : ContextId) (name : String) (value : Json) :
    (r.setLogValue c name value).outline view = r.outline view :=
  update_outline_of_eq view (f := Context.setLogValue name value) (fun _ => rfl) r c

theorem setId_outline (r : Realm σ) (c : ContextId) (id : String) :
    (r.setId c id).outline view = (r.outline view).update c fun x => { x with id := id } :=
  update_outline view (f := Context.setId id) (fun _ => rfl) r c

theorem cancel_outline (r : Realm σ) (c : ContextId) :
    (r.cancel c).outline view = (r.outline view).cancel c := by
  have h : (r.contexts.mapIdx fun i d =>
        if i = c ∨ d.lineage.contains c then d.cancel else d).map Context.outline =
      (r.contexts.map Context.outline).mapIdx fun i d =>
        if i = c ∨ d.lineage.contains c then d.cancel else d := by
    refine Array.ext (by simp) fun i h₁ h₂ => ?_
    simp only [Array.getElem_map, Array.getElem_mapIdx]
    rw [apply_ite Context.outline]
    rfl
  simp only [outline, cancel, h]

theorem add_outline (r : Realm σ) (c : Context) :
    (r.add c).2.outline view = ((r.outline view).add c.outline).2 := by
  simp only [outline, add, Array.map_push]

/-! ## Records and calls -/

@[simp] theorem emit_outline (r : Realm σ) (c : ContextId) (level : LogLevel) (message : String)
    (fields : Entries Json) : (r.emit c level message fields).outline view = r.outline view := by
  unfold emit
  dsimp only
  split <;> rfl

@[simp] theorem log_outline (r : Realm σ) (c : ContextId) (level : LogLevel) (message : String)
    (fields : List (String × String)) :
    (r.log c level message fields).outline view = r.outline view :=
  r.emit_outline view c level message _

@[simp] theorem told_outline (r : Realm σ) (call : ObserverCall) :
    (r.told call).outline view = r.outline view := rfl

@[simp] theorem measure_outline (r : Realm σ) (observer : Observer) (span : ContextId)
    (metric : String) (attributes : Attributes) (value : Int64) :
    (r.measure observer span metric attributes value).outline view = r.outline view := by
  unfold measure
  dsimp only
  split <;> simp

@[simp] theorem closeSpan_outline (r : Realm σ) (observer : Observer) (span : ContextId)
    (attributes : Attributes) (error : Option String) :
    (r.closeSpan observer span attributes error).outline view = r.outline view := by
  unfold closeSpan
  dsimp only
  split
  · simp
  · split <;> simp

/-! ## Waits -/

theorem interrupt_outline (r : Realm σ) :
    (r.outline view).interrupt = r.interrupt.outline view := by
  have hfold : ∀ (cs : List ContextId) (s : Realm σ),
      cs.foldl (fun s c => s.cancel c) (s.outline view) =
        (cs.foldl (fun s c => s.cancel c) s).outline view := by
    intro cs
    induction cs with
    | nil => exact fun s => rfl
    | cons c cs ih =>
      intro s
      rw [List.foldl_cons, List.foldl_cons, ← s.cancel_outline view c]
      exact ih (s.cancel c)
  exact hfold r.interrupts { r with interrupts := [] }

theorem sleep_outline (r : Realm σ) (source : TimeSource) (d : Duration) :
    (r.outline view).sleep source d = (r.sleep source d).outline view := by
  -- For any clock and milliseconds, so that the real ones are never computed.
  have h : ∀ (clock : Clock) (millis : Nat),
      { r.outline view with rests := r.rests.push d, clock := clock, systemMillis := millis } =
        { r with rests := r.rests.push d, clock := clock, systemMillis := millis }.outline view :=
    fun _ _ => rfl
  cases source with
  | shared => exact h _ _
  | system => exact h _ _

theorem wait_outline (r : Realm σ) (source : TimeSource) (c : ContextId) (d : Duration) :
    (r.outline view).wait source c d =
      ((r.wait source c d).1, (r.wait source c d).2.outline view) := by
  have hc : ∀ s : Realm σ, (s.outline view).isCancelled c = s.isCancelled c := by
    intro s
    rw [isCancelled, context_outline]
    rfl
  have hi : (if isInstant source d then r.outline view else (r.outline view).interrupt) =
      (if isInstant source d then r else r.interrupt).outline view := by
    rw [interrupt_outline]
    split <;> rfl
  simp only [wait, hi, hc, sleep_outline]
  by_cases h : r.isCancelled c = true
  · simp only [if_pos h]
  · simp only [if_neg h]
    generalize (if isInstant source d = true then r else r.interrupt) = s
    by_cases hs : s.isCancelled c = true
    · simp only [if_pos hs]
    · simp only [if_neg hs]

/-! ## Duplicates -/

theorem hasChecker_outline (r : Realm σ) (c : ContextId) :
    ((r.outline view).context c).hasChecker = (r.context c).hasChecker := by
  rw [context_outline]
  rfl

theorem isDuplicate_outline (r : Realm σ) (c : ContextId) (payload : ByteArray) :
    (r.outline view).isDuplicate c payload =
      ((r.isDuplicate c payload).1, (r.isDuplicate c payload).2.outline view) := by
  unfold isDuplicate
  rw [hasChecker_outline, show (r.outline view).checker = r.checker from rfl]
  cases r.checker with
  | none => rfl
  | some cache =>
    dsimp only
    by_cases h : (r.context c).hasChecker = true
    · rw [if_pos h, if_pos h]
      rfl
    · rw [if_neg h, if_neg h]

theorem forget_outline (r : Realm σ) (c : ContextId) (payload : ByteArray) :
    (r.outline view).forget c payload = (r.forget c payload).outline view := by
  unfold forget
  rw [hasChecker_outline, show (r.outline view).checker = r.checker from rfl]
  cases r.checker with
  | none => rfl
  | some cache =>
    dsimp only
    by_cases h : (r.context c).hasChecker = true
    · rw [if_pos h, if_pos h]
      rfl
    · rw [if_neg h, if_neg h]

/-! ## Alike realms -/

namespace Alike

variable {view} {r r' r'' : Realm σ}

theorem refl (r : Realm σ) : Alike view r r := rfl

theorem symm (h : Alike view r r') : Alike view r' r := Eq.symm h

theorem trans (h : Alike view r r') (h' : Alike view r' r'') : Alike view r r'' :=
  Eq.trans h h'

/-- Steps that leave the outline as it was may be left out. -/
theorem of_outline_eq {s s' : Realm σ} (h : Alike view r r')
    (hs : s.outline view = r.outline view) (hs' : s'.outline view = r'.outline view) :
    Alike view s s' := hs.trans (Eq.trans h hs'.symm)

/-- What is read off the outline of alike realms is the same. -/
theorem congr {α : Type u} (h : Alike view r r') (f : Realm τ → α) :
    f (r.outline view) = f (r'.outline view) := congrArg f h

theorem size_eq (h : Alike view r r') : r.contexts.size = r'.contexts.size := by
  simpa [outline] using h.congr fun s => s.contexts.size

theorem context_eq (h : Alike view r r') (c : ContextId) :
    (r.context c).outline = (r'.context c).outline := by
  rw [← context_outline view, ← context_outline view, h.congr fun s => s.context c]

theorem id_eq (h : Alike view r r') (c : ContextId) : (r.context c).id = (r'.context c).id := by
  have hid := congrArg Context.id (h.context_eq c)
  exact hid

theorem handles_eq (h : Alike view r r') (c : ContextId) :
    (r.context c).handles = (r'.context c).handles := by
  have hhandles := congrArg Context.handles (h.context_eq c)
  exact hhandles

theorem checker_eq (h : Alike view r r') : r.checker = r'.checker := by
  have hchecker := h.congr Realm.checker
  exact hchecker

theorem view_eq (h : Alike view r r') : view r.downstream = view r'.downstream := by
  have hview := h.congr Realm.downstream
  exact hview

theorem systemMillis_eq (h : Alike view r r') : r.systemMillis = r'.systemMillis := by
  have hmillis := h.congr Realm.systemMillis
  exact hmillis

/-- A deadline comes at the same time in both. -/
theorem isLate_eq (h : Alike view r r') (deadline : Option Nat) :
    r.isLate deadline = r'.isLate deadline := by
  rw [isLate, isLate, h.systemMillis_eq]

/-- What lies downstream may change where the view is the same. -/
theorem withDownstream (h : Alike view r r') {s s' : σ} (hs : view s = view s') :
    Alike view { r with downstream := s } { r' with downstream := s' } := by
  have hout := h.congr fun t => ({ t with downstream := view s } : Realm τ)
  unfold Alike outline at hout ⊢
  rw [hs] at hout ⊢
  exact hout

theorem setId (h : Alike view r r') (c : ContextId) (id : String) :
    Alike view (r.setId c id) (r'.setId c id) := by
  unfold Alike at h ⊢
  rw [setId_outline, setId_outline, h]

theorem cancel (h : Alike view r r') (c : ContextId) :
    Alike view (r.cancel c) (r'.cancel c) := by
  unfold Alike at h ⊢
  rw [cancel_outline, cancel_outline, h]

theorem derive (h : Alike view r r') (parent : ContextId) :
    Agree view (r.derive parent) (r'.derive parent) := by
  refine ⟨by rw [derive_fst, derive_fst, h.size_eq], ?_⟩
  -- A context is derived in a realm as in its outline, but for the bags.
  have hout : ∀ s : Realm σ, (s.derive parent).2.outline view =
      ((s.outline view).derive parent).2.outline id := by
    intro s
    have hid : ((s.outline view).context parent).id = (s.context parent).id := by
      rw [context_outline]
      rfl
    have hadd : ∀ (ids : Uuid.Supply) (fresh : String),
        ({ s with ids := ids }.add ((s.context parent).derived parent fresh)).2.outline view =
          ({ s.outline view with ids := ids }.add
            (((s.outline view).context parent).derived parent fresh)).2.outline id := by
      intro ids fresh
      have hagain : ({ s with ids := ids } : Realm σ).outline view =
          ({ s.outline view with ids := ids } : Realm τ).outline id := by
        show ({ s.outline view with ids := ids } : Realm τ) =
          { (s.outline view).outline id with ids := ids }
        rw [outline_outline]
      rw [add_outline, add_outline, context_outline, hagain]
      rfl
    unfold Realm.derive
    dsimp only
    rw [hid]
    split
    · exact hadd _ _
    · exact hadd _ _
  unfold Alike at h ⊢
  rw [hout r, hout r', h]

/-- A span opens alike, whatever observers are told of it. -/
theorem openSpan (h : Alike view r r') (parent : ContextId) (name name' : String)
    (attributes attributes' : Attributes) :
    Agree view (r.openSpan parent name attributes) (r'.openSpan parent name' attributes') := by
  have hout : ∀ (s : Realm σ) name attributes,
      (s.openSpan parent name attributes).2.outline view = (s.derive parent).2.outline view := by
    intro s name attributes
    obtain ⟨t, ht, he | ⟨time, fields, he⟩⟩ := s.openSpan_cases parent name attributes
    · rw [he, ht, told_outline]
    · rw [he, ht]
      simp
  refine ⟨by rw [openSpan_fst, openSpan_fst, h.size_eq], ?_⟩
  exact (h.derive parent).2.of_outline_eq (hout r _ _) (hout r' _ _)

theorem wait (h : Alike view r r') (source : TimeSource) (c : ContextId) (d : Duration) :
    Agree view (r.wait source c d) (r'.wait source c d) := by
  have hw := h.congr fun s => s.wait source c d
  rw [wait_outline, wait_outline] at hw
  exact Prod.mk.inj hw

theorem isDuplicate (h : Alike view r r') (c : ContextId) (payload : ByteArray) :
    Agree view (r.isDuplicate c payload) (r'.isDuplicate c payload) := by
  have hd := h.congr fun s => s.isDuplicate c payload
  rw [isDuplicate_outline, isDuplicate_outline] at hd
  exact Prod.mk.inj hd

theorem forget (h : Alike view r r') (c : ContextId) (payload : ByteArray) :
    Alike view (r.forget c payload) (r'.forget c payload) := by
  unfold Alike at h ⊢
  rw [← forget_outline, ← forget_outline, h]

theorem enter (h : Alike view r r') : Alike view r.enter r'.enter := h.congr Realm.enter

theorem leave (h : Alike view r r') : Alike view r.leave r'.leave := h.congr Realm.leave

theorem raise (h : Alike view r r') (payload : Payload) :
    Alike view (r.raise payload) (r'.raise payload) := by
  have hout : ∀ s : Realm σ, (s.raise payload).outline view =
      (s.outline view).raise payload := by
    intro s
    unfold Realm.raise
    rw [show (s.outline view).capture = s.capture from rfl]
    dsimp only
    split <;> rfl
  unfold Alike at h ⊢
  rw [hout r, hout r', h]

theorem reportPanic (h : Alike view r r') (c : ContextId) (payload : Payload) :
    Alike view (r.reportPanic c payload) (r'.reportPanic c payload) := by
  have hout : ∀ s : Realm σ, (s.reportPanic c payload).outline view =
      ((s.outline view).reportPanic c payload).outline id := by
    intro s
    unfold Realm.reportPanic
    rw [show (s.outline view).capture = s.capture from rfl]
    cases s.capture.trace with
    | none =>
      simp only [log_outline]
      exact s.withCapture_outline view _
    | some trace =>
      simp only [log_outline]
      exact s.withCapture_outline view _
  unfold Alike at h ⊢
  rw [hout r, hout r', h]

end Alike
end Realm
end EventRelay
