import EventRelay.Proofs.Realm.Correlation

/-!
# Work under one id

A piece of work goes by one correlation id if it is done through contexts that bear that id, makes
no other ones, and leaves records that carry it. This module says so of each step that is taken
through a context that bears the id.

* `Context.Bears`: a context that bears an id. `LogRecord.Carries`: a record that carries one.
* `Realm.Under`: from one realm to another by work under one id.
* `derive_under`, `openSpan_under`: what is made bears the id.
* `emit_under`, `measure_under`, `closeSpan_under`, `reportPanic_under`: what is said carries it.
* `contain_under`: work under a catch.
-/

namespace EventRelay

/-- A context that has an id, also among its log values. -/
def Context.Bears (id : String) (c : Context) : Prop := c.id = id ∧ c.InStep

/-- A record that carries a correlation id. -/
def LogRecord.Carries (id : String) (record : LogRecord) : Prop :=
  Entries.find? Key.traceId record.fields = some (.str id)

/-- Texts of which none takes the place of the correlation id. -/
def Anonymous (fields : List (String × String)) : Prop := ∀ field ∈ fields, field.1 ≠ Key.traceId

theorem Anonymous.find?_eq {fields : List (String × String)} (h : Anonymous fields) :
    Entries.find? Key.traceId (textFields fields) = none := by
  refine Entries.find?_ofList_eq_none fun p hp => ?_
  obtain ⟨field, hfield, rfl⟩ := List.mem_map.1 hp
  exact h field hfield

namespace Realm

variable {σ : Type} {id : String} {P : σ → Prop}

/-- From one realm to another by work under one id: contexts that bear the id keep it, new ones bear
it, and new records carry it. What lies downstream keeps a property. -/
structure Under (id : String) (P : σ → Prop) (r r' : Realm σ) : Prop where
  size_le : r.contexts.size ≤ r'.contexts.size
  keeps : ∀ c < r.contexts.size, (r.context c).Bears id → (r'.context c).Bears id
  bears : ∀ c, r.contexts.size ≤ c → c < r'.contexts.size → (r'.context c).Bears id
  records : ∃ added, r'.journal.toList = r.journal.toList ++ added ∧
    ∀ e ∈ added, e.2.Carries id
  downstream : P r.downstream → P r'.downstream

namespace Under

variable {r r' r'' : Realm σ}

theorem trans (h : Under id P r r') (h' : Under id P r' r'') : Under id P r r'' where
  size_le := Nat.le_trans h.size_le h'.size_le
  keeps c hc hb := h'.keeps c (Nat.lt_of_lt_of_le hc h.size_le) (h.keeps c hc hb)
  bears c hlo hhi := by
    by_cases hmid : c < r'.contexts.size
    · exact h'.keeps c hmid (h.bears c hlo hmid)
    · exact h'.bears c (Nat.le_of_not_lt hmid) hhi
  records := by
    obtain ⟨added, he, hadded⟩ := h.records
    obtain ⟨more, he', hmore⟩ := h'.records
    refine ⟨added ++ more, by rw [he', he, List.append_assoc], fun e hmem => ?_⟩
    rcases List.mem_append.1 hmem with hmem | hmem
    · exact hadded e hmem
    · exact hmore e hmem
  downstream hp := h'.downstream (h.downstream hp)

/-- A step that makes no context and leaves no record. -/
theorem of_size_eq (hsize : r'.contexts.size = r.contexts.size)
    (hkeeps : ∀ c < r.contexts.size, (r.context c).Bears id → (r'.context c).Bears id)
    (hj : r'.journal = r.journal) (hd : r'.downstream = r.downstream) : Under id P r r' where
  size_le := Nat.le_of_eq hsize.symm
  keeps := hkeeps
  bears c hlo hhi := absurd hhi (Nat.not_lt.2 (hsize ▸ hlo))
  records := ⟨[], by rw [hj, List.append_nil], by simp⟩
  downstream hp := hd ▸ hp

theorem of_eq (hc : r'.contexts = r.contexts) (hj : r'.journal = r.journal)
    (hd : r'.downstream = r.downstream) : Under id P r r' := by
  refine .of_size_eq (by rw [hc]) (fun c _ hb => ?_) hj hd
  rwa [context, hc]

theorem refl (r : Realm σ) : Under id P r r := .of_eq rfl rfl rfl

/-- A step that makes one context, which bears the id. -/
theorem of_born (hsize : r'.contexts.size = r.contexts.size + 1)
    (hkeeps : ∀ c < r.contexts.size, r'.context c = r.context c)
    (hborn : (r'.context r.contexts.size).Bears id) (hj : r'.journal = r.journal)
    (hd : r'.downstream = r.downstream) : Under id P r r' where
  size_le := hsize ▸ Nat.le_succ _
  keeps c hc hb := by rwa [hkeeps c hc]
  bears c hlo hhi := by
    rw [hsize] at hhi
    obtain rfl := Nat.le_antisymm (Nat.le_of_lt_succ hhi) hlo
    exact hborn
  records := ⟨[], by rw [hj, List.append_nil], by simp⟩
  downstream hp := hd ▸ hp

/-- A context that bears the id is still there, and bears it. -/
theorem still (h : Under id P r r') {c : ContextId}
    (hc : c < r.contexts.size ∧ (r.context c).Bears id) :
    c < r'.contexts.size ∧ (r'.context c).Bears id :=
  ⟨Nat.lt_of_lt_of_le hc.1 h.size_le, h.keeps c hc.1 hc.2⟩

end Under

/-! ## Writes -/

theorem update_under (r : Realm σ) (c : ContextId) {f : Context → Context}
    (hf : ∀ x : Context, x.Bears id → (f x).Bears id) : Under id P r (r.update c f) := by
  refine .of_size_eq (by simp [update]) (fun d _ hb => ?_) rfl rfl
  rcases r.context_update_cases c d f with he | ⟨-, he⟩
  · rwa [he]
  · rw [he]
    exact hf _ hb

theorem setId_under (r : Realm σ) (c : ContextId) : Under id P r (r.setId c id) :=
  r.update_under c fun _ _ => ⟨rfl, Context.inStep_setId id _⟩

theorem setValue_under (r : Realm σ) (c : ContextId) (name : String) (value : Json) :
    Under id P r (r.setValue c name value) :=
  r.update_under c fun _ hb => hb

theorem setLogValue_under (r : Realm σ) (c : ContextId) {name : String}
    (h : name ≠ Key.traceId) (value : Json) : Under id P r (r.setLogValue c name value) :=
  r.update_under c fun _ hb => ⟨hb.1, Context.inStep_setLogValue_of_ne h value hb.2⟩

theorem cancel_under (r : Realm σ) (c : ContextId) : Under id P r (r.cancel c) := by
  refine .of_size_eq (by simp [cancel]) (fun d hd hb => ?_) rfl rfl
  rw [r.context_cancel c hd]
  split
  · exact hb
  · exact hb

/-- A context derived from one that bears an id bears it. -/
theorem derive_under (r : Realm σ) {parent : ContextId} (h : (r.context parent).Bears id)
    (hid : id ≠ "") : Under id P r (r.derive parent).2 := by
  refine .of_born (r.size_derive parent) (fun c hc => r.context_derive_of_lt hc parent)
    ⟨?_, r.inStep_derive parent⟩ (r.journal_derive parent) (r.derive_quiet parent).downstream_eq
  rw [r.id_derive parent, issuedId, if_neg (by simpa [h.1] using hid), h.1]

/-! ## Records -/

/-- A record of a context that bears an id carries it, unless it brings one of its own. -/
theorem emit_under (r : Realm σ) {c : ContextId} (h : (r.context c).Bears id) (level : LogLevel)
    (message : String) {fields : Entries Json}
    (hfields : Entries.find? Key.traceId fields = none) :
    Under id P r (r.emit c level message fields) where
  size_le := (r.emit_quiet c level message fields).size_le
  keeps d _ hb := by rwa [context_emit]
  bears d hlo hhi := by
    rw [size_emit] at hhi
    exact absurd hhi (Nat.not_lt.2 hlo)
  records := by
    rw [journal_emit]
    by_cases hlogs : (r.context c).logging = true
    · rw [if_pos hlogs, Array.toList_push]
      refine ⟨_, rfl, fun e he => ?_⟩
      obtain rfl := List.mem_singleton.1 he
      show Entries.find? _ _ = _
      rw [Entries.find?_overlay_of_eq_none hfields, ← h.1]
      exact h.2
    · rw [if_neg hlogs]
      exact ⟨[], by simp, by simp⟩
  downstream hp := (r.emit_quiet c level message fields).downstream_eq ▸ hp

theorem log_under (r : Realm σ) {c : ContextId} (h : (r.context c).Bears id) (level : LogLevel)
    (message : String) {fields : List (String × String)} (hfields : Anonymous fields) :
    Under id P r (r.log c level message fields) :=
  r.emit_under h level message hfields.find?_eq

theorem told_under (r : Realm σ) (call : ObserverCall) : Under id P r (r.told call) :=
  .of_eq rfl rfl rfl

theorem openSpan_under (r : Realm σ) {parent : ContextId} (h : (r.context parent).Bears id)
    (hid : id ≠ "") (name : String) {attributes : Attributes} (hplain : Anonymous attributes) :
    Under id P r (r.openSpan parent name attributes).2 := by
  have hderived := r.derive_under (P := P) h hid
  have hspan : (r.derive parent).1 < (r.derive parent).2.contexts.size ∧
      ((r.derive parent).2.context (r.derive parent).1).Bears id := by
    rw [derive_fst]
    have hlt : r.contexts.size < (r.derive parent).2.contexts.size := by
      rw [size_derive]
      exact Nat.lt_succ_self _
    exact ⟨hlt, hderived.bears _ (Nat.le_refl _) hlt⟩
  have htold := hderived.trans
    ((r.derive parent).2.told_under (.started parent (r.derive parent).1 name attributes))
  cases ho : r.observerOf parent with
  | inert =>
    simp only [openSpan, ho]
    exact htold
  | tracing time =>
    simp only [openSpan, ho]
    generalize (r.derive parent).1 = span at hspan htold ⊢
    generalize hs : (r.derive parent).2.told _ = s at htold ⊢
    have hs' : span < s.contexts.size ∧ (s.context span).Bears id := by
      rw [← hs]
      exact hspan
    have hstart : Under id P s (s.setValue span Key.startTime (.ofUInt64 (s.wallTime time))) :=
      s.setValue_under span _ _
    have hname : Under id P (s.setValue span Key.startTime (.ofUInt64 (s.wallTime time)))
        ((s.setValue span Key.startTime (.ofUInt64 (s.wallTime time))).setValue span Key.spanName
          (.str name)) := setValue_under _ span _ _
    refine ((htold.trans hstart).trans hname).trans (emit_under _ ?_ _ _ ?_)
    · exact (hname.still (hstart.still hs')).2
    · rw [Entries.find?_insert_of_ne (by decide), hplain.find?_eq]

/-- The context of a span bears the id of the context in which it starts. -/
theorem bears_openSpan (r : Realm σ) {parent : ContextId} (h : (r.context parent).Bears id)
    (hid : id ≠ "") (name : String) (attributes : Attributes) :
    r.contexts.size < (r.openSpan parent name attributes).2.contexts.size ∧
      ((r.openSpan parent name attributes).2.context r.contexts.size).Bears id := by
  obtain ⟨hlt, -⟩ := r.context_openSpan parent name attributes
  obtain ⟨hsame, hstep⟩ := r.openSpan_named parent name attributes
  refine ⟨hlt, ?_, hstep⟩
  rw [hsame, issuedId, if_neg (by simpa [h.1] using hid), h.1]

theorem measure_under (r : Realm σ) (observer : Observer) {span : ContextId}
    (h : (r.context span).Bears id) (metric : String) {attributes : Attributes}
    (hplain : Anonymous attributes) (value : Int64) :
    Under id P r (r.measure observer span metric attributes value) := by
  cases observer with
  | inert => exact r.told_under _
  | tracing time =>
    have htold : ((r.told (.recorded span metric attributes value)).context span).Bears id := h
    refine (r.told_under _).trans (emit_under _ htold _ _ ?_)
    rw [Entries.find?_insert_of_ne (by decide), Entries.find?_insert_of_ne (by decide),
      hplain.find?_eq]

theorem closeSpan_under (r : Realm σ) (observer : Observer) {span : ContextId}
    (h : (r.context span).Bears id) {attributes : Attributes} (hplain : Anonymous attributes)
    (error : Option String) : Under id P r (r.closeSpan observer span attributes error) := by
  have hfields : ∀ (s : Realm σ) time,
      Entries.find? Key.traceId (s.spanFields time span (textFields attributes)) = none := by
    intro s time
    unfold spanFields
    dsimp only
    split <;> split <;>
      simp only [Entries.find?_insert_of_ne (show Key.traceId ≠ "span" by decide),
        Entries.find?_insert_of_ne (show Key.traceId ≠ "duration_ms" by decide), hplain.find?_eq]
  cases observer with
  | inert => exact r.told_under _
  | tracing time =>
    have htold : ((r.told (.ended span attributes error)).context span).Bears id := h
    refine (r.told_under (.ended span attributes error)).trans ?_
    cases error with
    | none => exact emit_under _ htold _ _ (hfields _ time)
    | some text =>
      refine emit_under _ htold _ _ ?_
      rw [Entries.find?_insert_of_ne (by decide), hfields]

theorem reportPanic_under (r : Realm σ) {c : ContextId} (h : (r.context c).Bears id)
    (payload : Payload) : Under id P r (r.reportPanic c payload) := by
  have hplain : ∀ trace, Anonymous
      [("panicError", payload.message), ("stackTrace", Text.truncate traceLimit trace)] := by
    intro trace
    simp [Anonymous, Key.traceId]
  cases ht : r.capture.trace with
  | none =>
    simp only [reportPanic, ht]
    refine Under.trans ?_ (r.takeTrace.2.log_under h _ _ (hplain _))
    exact .of_eq rfl rfl rfl
  | some trace =>
    simp only [reportPanic, ht]
    refine Under.trans ?_ (log_under { r with capture := { r.capture with trace := none } } h _ _
      (hplain trace))
    exact .of_eq rfl rfl rfl

/-! ## Questions to the cache, and catches -/

theorem isDuplicate_under (r : Realm σ) (c : ContextId) (payload : ByteArray) :
    Under id P r (r.isDuplicate c payload).2 := by
  unfold isDuplicate
  split
  · split
    · exact .of_eq rfl rfl rfl
    · exact .refl r
  · exact .refl r

theorem forget_under (r : Realm σ) (c : ContextId) (payload : ByteArray) :
    Under id P r (r.forget c payload) := by
  unfold forget
  split
  · split
    · exact .of_eq rfl rfl rfl
    · exact .refl r
  · exact .refl r

theorem enter_under (r : Realm σ) : Under id P r r.enter := .of_eq rfl rfl rfl

theorem leave_under (r : Realm σ) : Under id P r r.leave := .of_eq rfl rfl rfl

theorem raise_under (r : Realm σ) (payload : Payload) : Under id P r (r.raise payload) := by
  unfold raise
  dsimp only
  split <;> exact .of_eq rfl rfl rfl

/-- Work under a catch through a context that bears the id: the report of a panic carries it. -/
theorem contain_under {α : Type u} {r : Realm σ} {c : ContextId}
    {work : Realm σ → Outcome α × Realm σ} (hc : c < r.contexts.size ∧ (r.context c).Bears id)
    (h : Under id P r.enter (work r.enter).2) : Under id P r (r.contain c work).2 := by
  have hleft := (r.enter_under.trans h).trans (leave_under (P := P) (work r.enter).2)
  have hstill := hleft.still hc
  unfold contain
  generalize work r.enter = worked at hleft hstill ⊢
  obtain ⟨outcome, s⟩ := worked
  cases outcome with
  | returned a => exact hleft
  | panicked payload => exact hleft.trans (s.leave.reportPanic_under hstill.2 payload)
  | hung => exact hleft

/-! ## Waits -/

theorem wait_under (r : Realm σ) (source : TimeSource) (c : ContextId) (d : Duration) :
    Under id P r (r.wait source c d).2 :=
  wait_lift .trans cancel_under (fun _ _ _ _ _ => .of_eq rfl rfl rfl) r source c d

end Realm
end EventRelay
