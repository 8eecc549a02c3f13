import EventRelay.Proofs.Realm.Frame

/-!
# What is done to a forest of contexts

Contexts are made, as roots or from other contexts, and written to, and each can be read at any
moment. This module lists the operations that there are and says of each what the contexts read
after it.

* `Slot`, `Realm.read?`: the places of a context that can be read, and what is read there.
* `Operation`, `Operation.act`: what can be done. `Realm.after`: the realm after some operations of
  a sequence, done one after another in any order on any contexts.
* `Operation.writes?`: what an operation writes to a slot. `read?_act`: a context that was there
  reads what was written to it by the operation, or else what it read before.
* `Operation.atBirth?`: what a context reads when it is made. `read?_act_size`: a new context does.
-/

namespace EventRelay

/-- A place in a context: an entry of one of the three bags, or whether the context logs. -/
inductive Slot where
  | value (name : String)
  | logValue (name : String)
  | handle (name : String)
  | logging
  deriving DecidableEq, Repr

/-- What can be read in a place of a context. -/
inductive Content where
  | json (value : Json)
  | handle (handle : Handle)
  | flag (on : Bool)
  deriving DecidableEq

namespace Context

/-- What is read in a slot. -/
def read? (c : Context) : Slot → Option Content
  | .value name => (c.value? name).map .json
  | .logValue name => (c.logValue? name).map .json
  | .handle name => (c.handle? name).map .handle
  | .logging => some (.flag c.logging)

theorem read?_setValue (c : Context) (name : String) (value : Json) (slot : Slot) :
    (c.setValue name value).read? slot =
      if slot = .value name then some (.json value) else c.read? slot := by
  cases slot with
  | value other =>
    show (Entries.find? other (c.values.insert name value)).map Content.json = _
    rw [Entries.find?_insert]
    by_cases h : other = name <;> simp [h, read?, value?]
  | logValue other => rfl
  | handle other => rfl
  | logging => rfl

theorem read?_setLogValue (c : Context) (name : String) (value : Json) (slot : Slot) :
    (c.setLogValue name value).read? slot =
      if slot = .logValue name then some (.json value) else c.read? slot := by
  cases slot with
  | value other => rfl
  | logValue other =>
    show (Entries.find? other (c.logValues.insert name value)).map Content.json = _
    rw [Entries.find?_insert]
    by_cases h : other = name <;> simp [h, read?, logValue?]
  | handle other => rfl
  | logging => rfl

theorem read?_setHandle (c : Context) (name : String) (handle : Handle) (slot : Slot) :
    (c.setHandle name handle).read? slot =
      if slot = .handle name then some (.handle handle) else c.read? slot := by
  cases slot with
  | value other => rfl
  | logValue other => rfl
  | handle other =>
    show (Entries.find? other (c.handles.insert name handle)).map Content.handle = _
    rw [Entries.find?_insert]
    by_cases h : other = name <;> simp [h, read?, handle?]
  | logging => rfl

/-- The correlation id is read among the log values. -/
theorem read?_setId (c : Context) (id : String) (slot : Slot) :
    (c.setId id).read? slot =
      if slot = .logValue Key.traceId then some (.json (.str id)) else c.read? slot :=
  c.read?_setLogValue Key.traceId (.str id) slot

theorem read?_setLogging (c : Context) (enabled : Bool) (slot : Slot) :
    (c.setLogging enabled).read? slot =
      if slot = .logging then some (.flag enabled) else c.read? slot := by
  cases slot <;> rfl

theorem read?_derived (c : Context) (parent : Nat) (fresh : String) (slot : Slot) :
    (c.derived parent fresh).read? slot =
      if slot = .logValue Key.traceId then some (.json (.str (c.derived parent fresh).id))
      else c.read? slot :=
  c.read?_setId _ slot

end Context

/-- Something that is done to the contexts of a realm, or around them: spans start, are measured and
end through the observer of their context. -/
inductive Operation where
  | addRoot (sink : Sink)
  | setId (c : ContextId) (id : String)
  | setValue (c : ContextId) (name : String) (value : Json)
  | setLogValue (c : ContextId) (name : String) (value : Json)
  | setHandle (c : ContextId) (name : String) (handle : Handle)
  | setLogging (c : ContextId) (enabled : Bool)
  | derive (parent : ContextId)
  | openSpan (parent : ContextId) (name : String) (attributes : Attributes)
  | measure (span : ContextId) (metric : String) (attributes : Attributes) (value : Int64)
  | closeSpan (span : ContextId) (attributes : Attributes) (error : Option String)
  | emit (c : ContextId) (level : LogLevel) (message : String) (fields : Entries Json)
  | cancel (c : ContextId)
  | advance (d : Duration)

namespace Realm

variable {σ : Type}

/-- What is read in a slot of the context at a place. -/
def read? (r : Realm σ) (c : ContextId) (slot : Slot) : Option Content := (r.context c).read? slot

theorem read?_congr {r r' : Realm σ} {c : ContextId} (h : r'.context c = r.context c)
    (slot : Slot) : r'.read? c slot = r.read? c slot := by
  rw [read?, h]
  rfl

end Realm

namespace Operation

variable {σ : Type}

/-- Does an operation. -/
def act : Operation → Realm σ → Realm σ
  | .addRoot sink, r => (r.addRoot sink).2
  | .setId c id, r => r.setId c id
  | .setValue c name value, r => r.setValue c name value
  | .setLogValue c name value, r => r.setLogValue c name value
  | .setHandle c name handle, r => r.setHandle c name handle
  | .setLogging c enabled, r => r.setLogging c enabled
  | .derive parent, r => (r.derive parent).2
  | .openSpan parent name attributes, r => (r.openSpan parent name attributes).2
  | .measure span metric attributes value, r =>
    r.measure (r.observerOf span) span metric attributes value
  | .closeSpan span attributes error, r => r.closeSpan (r.observerOf span) span attributes error
  | .emit c level message fields, r => r.emit c level message fields
  | .cancel c, r => r.cancel c
  | .advance d, r => r.advance d

/-- What an operation writes to a slot of a context. -/
def writes? (c : ContextId) (slot : Slot) : Operation → Option Content
  | .setId d id => if d = c ∧ slot = .logValue Key.traceId then some (.json (.str id)) else none
  | .setValue d name value => if d = c ∧ slot = .value name then some (.json value) else none
  | .setLogValue d name value => if d = c ∧ slot = .logValue name then some (.json value) else none
  | .setHandle d name handle => if d = c ∧ slot = .handle name then some (.handle handle) else none
  | .setLogging d enabled => if d = c ∧ slot = .logging then some (.flag enabled) else none
  | _ => none

/-- The context whose places an operation writes to. To derive a context from another one is not to
write to that one. -/
def writesTo? : Operation → Option ContextId
  | .setId c _ | .setValue c _ _ | .setLogValue c _ _ | .setHandle c _ _ | .setLogging c _ => some c
  | _ => none

theorem writes?_eq_none {op : Operation} {c : ContextId} (h : op.writesTo? ≠ some c) (slot : Slot) :
    op.writes? c slot = none := by
  cases op <;> simp_all [writesTo?, writes?]

/-- Whether an operation makes a context. -/
def makes : Operation → Bool
  | .addRoot _ | .derive _ | .openSpan .. => true
  | _ => false

/-- The context that an operation derives one from. -/
def parent? : Operation → Option ContextId
  | .derive parent | .openSpan parent .. => some parent
  | _ => none

/-- What a context that an operation makes reads at first. One derived from another reads what that
one reads at the moment, but for its id among the log values. The context of a span that somebody is
told of also reads the start and the name of the span. -/
def atBirth? (r : Realm σ) (slot : Slot) (op : Operation) : Option Content :=
  let inherited (parent : ContextId) : Option Content :=
    if slot = .logValue Key.traceId then
      some (.json (.str ((op.act r).context r.contexts.size).id))
    else r.read? parent slot
  match op with
  | .addRoot _ => if slot = .logging then some (.flag true) else none
  | .derive parent => inherited parent
  | .openSpan parent name _ =>
    match r.observerOf parent with
    | .inert => inherited parent
    | .tracing time =>
      if slot = .value Key.startTime then some (.json (.ofUInt64 (r.wallTime time)))
      else if slot = .value Key.spanName then some (.json (.str name))
      else inherited parent
  | _ => none

end Operation

namespace Realm

variable {σ : Type}

/-- The realm after the first operations of a sequence. -/
def after (ops : Nat → Operation) (r : Realm σ) : Nat → Realm σ
  | 0 => r
  | n + 1 => (ops n).act (r.after ops n)

/-! ## The contexts that there are -/

/-- A write reaches the context that it is for and no other. -/
theorem read?_update (r : Realm σ) {c : ContextId} (hc : c < r.contexts.size) (d : ContextId)
    (f : Context → Context) (slot : Slot) : (r.update d f).read? c slot =
      if d = c then (f (r.context c)).read? slot else r.read? c slot := by
  by_cases h : d = c
  · subst h
    rw [read?, context_update_self r hc, if_pos rfl]
  · rw [if_neg h]
    exact read?_congr (context_update_ne r (Ne.symm h) f) slot

theorem context_derive_of_lt (r : Realm σ) {c : ContextId} (hc : c < r.contexts.size)
    (parent : ContextId) : (r.derive parent).2.context c = r.context c := by
  obtain ⟨fresh, ids, he⟩ := r.derive_eq parent
  rw [he]
  exact context_add_of_lt { r with ids := ids } hc _

/-- A span leaves the contexts that there are as they are. -/
theorem context_openSpan_of_lt (r : Realm σ) {c : ContextId} (hc : c < r.contexts.size)
    (parent : ContextId) (name : String) (attributes : Attributes) :
    (r.openSpan parent name attributes).2.context c = r.context c := by
  obtain ⟨s, hs, h⟩ := r.openSpan_cases parent name attributes
  have hsame : s.context c = r.context c := by
    rw [hs]
    exact r.context_derive_of_lt hc parent
  have hne : c ≠ r.contexts.size := Nat.ne_of_lt hc
  obtain h | ⟨time, fields, h⟩ := h
  · rw [h]
    exact hsame
  · rw [h]
    simp only [context_emit, setValue]
    rw [context_update_ne _ hne, context_update_ne _ hne, hsame]

theorem context_measure (r : Realm σ) (c : ContextId) (observer : Observer) (span : ContextId)
    (metric : String) (attributes : Attributes) (value : Int64) :
    (r.measure observer span metric attributes value).context c = r.context c := by
  cases observer with
  | inert => rfl
  | tracing time => exact context_emit ..

theorem context_closeSpan (r : Realm σ) (c : ContextId) (observer : Observer) (span : ContextId)
    (attributes : Attributes) (error : Option String) :
    (r.closeSpan observer span attributes error).context c = r.context c := by
  cases observer with
  | inert => rfl
  | tracing time => cases error <;> exact context_emit ..

/-- To abandon contexts changes nothing that can be read in a slot. -/
theorem read?_cancel (r : Realm σ) {c : ContextId} (hc : c < r.contexts.size) (d : ContextId)
    (slot : Slot) : (r.cancel d).read? c slot = r.read? c slot := by
  have hget : (r.cancel d).context c =
      if c = d ∨ (r.context c).lineage.contains d then (r.context c).cancel else r.context c := by
    simp [context, cancel, Array.getD, hc]
  rw [read?, hget]
  split
  · cases slot <;> rfl
  · rfl

/-- **One operation.** A context that was there reads what the operation wrote to it, or else what
it read before. -/
theorem read?_act (op : Operation) (r : Realm σ) {c : ContextId} (hc : c < r.contexts.size)
    (slot : Slot) : (op.act r).read? c slot = (op.writes? c slot).or (r.read? c slot) := by
  have hwrite : ∀ (d : ContextId) (f : Context → Context) (s : Slot) (content : Content),
      (∀ x : Context, (f x).read? slot = if slot = s then some content else x.read? slot) →
      (r.update d f).read? c slot =
        (if d = c ∧ slot = s then some content else none).or (r.read? c slot) := by
    intro d f s content hf
    rw [read?_update r hc, hf]
    by_cases hd : d = c <;> by_cases hs : slot = s <;> simp [hd, hs, read?]
  cases op with
  | addRoot sink => exact read?_congr (context_add_of_lt r hc _) slot
  | setId d id => exact hwrite d _ _ _ (fun x => x.read?_setId id slot)
  | setValue d name value => exact hwrite d _ _ _ (fun x => x.read?_setValue name value slot)
  | setLogValue d name value =>
    exact hwrite d _ _ _ (fun x => x.read?_setLogValue name value slot)
  | setHandle d name handle => exact hwrite d _ _ _ (fun x => x.read?_setHandle name handle slot)
  | setLogging d enabled => exact hwrite d _ _ _ (fun x => x.read?_setLogging enabled slot)
  | derive parent => exact read?_congr (r.context_derive_of_lt hc parent) slot
  | openSpan parent name attributes =>
    exact read?_congr (r.context_openSpan_of_lt hc parent name attributes) slot
  | measure span metric attributes value => exact read?_congr (r.context_measure c _ _ _ _ _) slot
  | closeSpan span attributes error => exact read?_congr (r.context_closeSpan c _ _ _ _) slot
  | emit d level message fields => exact read?_congr (context_emit r d c level message fields) slot
  | cancel d => exact r.read?_cancel hc d slot
  | advance d => rfl

/-! ## The contexts that are made -/

theorem size_emit (r : Realm σ) (c : ContextId) (level : LogLevel) (message : String)
    (fields : Entries Json) : (r.emit c level message fields).contexts.size = r.contexts.size := by
  unfold emit
  dsimp only
  split <;> rfl

theorem size_openSpan (r : Realm σ) (parent : ContextId) (name : String)
    (attributes : Attributes) :
    (r.openSpan parent name attributes).2.contexts.size = r.contexts.size + 1 := by
  obtain ⟨s, hs, h⟩ := r.openSpan_cases parent name attributes
  have hsize : s.contexts.size = r.contexts.size + 1 := by
    rw [hs]
    exact r.size_derive parent
  obtain h | ⟨time, fields, h⟩ := h
  · rw [h]
    exact hsize
  · rw [h, size_emit]
    simp [setValue, update, hsize]

/-- An operation adds the context that it makes, and loses none. -/
theorem size_act (op : Operation) (r : Realm σ) :
    (op.act r).contexts.size = r.contexts.size + if op.makes then 1 else 0 := by
  cases op with
  | addRoot sink => simp [Operation.act, Operation.makes, addRoot, add]
  | derive parent => exact r.size_derive parent
  | openSpan parent name attributes => exact r.size_openSpan parent name attributes
  | measure span metric attributes value =>
    show (r.measure (r.observerOf span) span metric attributes value).contexts.size = _
    cases r.observerOf span with
    | inert => rfl
    | tracing time => exact size_emit ..
  | closeSpan span attributes error =>
    show (r.closeSpan (r.observerOf span) span attributes error).contexts.size = _
    cases r.observerOf span with
    | inert => rfl
    | tracing time => cases error <;> exact size_emit ..
  | emit c level message fields => exact size_emit ..
  | advance d => rfl
  | _ => simp [Operation.act, Operation.makes, setId, setValue, setLogValue, setHandle, setLogging,
      update, cancel]

theorem read?_derive_size (r : Realm σ) (parent : ContextId) (slot : Slot) :
    (r.derive parent).2.read? r.contexts.size slot =
      if slot = .logValue Key.traceId then
        some (.json (.str ((r.derive parent).2.context r.contexts.size).id))
      else r.read? parent slot := by
  obtain ⟨fresh, h⟩ := r.context_derive parent
  rw [read?, h]
  exact Context.read?_derived _ _ _ _

/-- The context of a span is a derived one, in which somebody who is told of the span finds its
start and its name. -/
theorem context_openSpan_size (r : Realm σ) (parent : ContextId) (name : String)
    (attributes : Attributes) :
    (r.openSpan parent name attributes).2.context r.contexts.size =
      match r.observerOf parent with
      | .inert => (r.derive parent).2.context r.contexts.size
      | .tracing time => (((r.derive parent).2.context r.contexts.size).setValue Key.startTime
          (.ofUInt64 (r.wallTime time))).setValue Key.spanName (.str name) := by
  have hlt : r.contexts.size < (r.derive parent).2.contexts.size := by
    rw [size_derive]
    exact Nat.lt_succ_self _
  have hwall : ∀ time, (r.derive parent).2.wallTime time = r.wallTime time := by
    intro time
    obtain ⟨fresh, ids, he⟩ := r.derive_eq parent
    rw [he]
    cases time <;> rfl
  cases ho : r.observerOf parent with
  | inert =>
    simp only [openSpan, ho]
    rfl
  | tracing time =>
    simp only [openSpan, ho, context_emit, derive_fst, setValue]
    rw [context_update_self _ (by simp [update, told]),
      context_update_self _ (by simp [told]), ← hwall time]
    cases time <;> rfl

/-- **A new context.** What a context that is made reads at first. -/
theorem read?_act_size (op : Operation) (r : Realm σ) (hop : op.makes = true) (slot : Slot) :
    (op.act r).read? r.contexts.size slot = op.atBirth? r slot := by
  cases op with
  | addRoot sink =>
    show (r.add (.root sink)).2.read? (r.add (.root sink)).1 slot = _
    rw [read?, context_add_self]
    cases slot <;> rfl
  | derive parent => exact r.read?_derive_size parent slot
  | openSpan parent name attributes =>
    show (r.openSpan parent name attributes).2.read? r.contexts.size slot =
      Operation.atBirth? r slot (.openSpan parent name attributes)
    have hborn := r.read?_derive_size parent slot
    rw [read?] at hborn ⊢
    cases ho : r.observerOf parent with
    | inert =>
      have hctx : (r.openSpan parent name attributes).2.context r.contexts.size =
          (r.derive parent).2.context r.contexts.size := by
        simpa only [ho] using r.context_openSpan_size parent name attributes
      simp only [Operation.atBirth?, Operation.act, ho, hctx]
      exact hborn
    | tracing time =>
      have hctx : (r.openSpan parent name attributes).2.context r.contexts.size =
          (((r.derive parent).2.context r.contexts.size).setValue Key.startTime
            (.ofUInt64 (r.wallTime time))).setValue Key.spanName (.str name) := by
        simpa only [ho] using r.context_openSpan_size parent name attributes
      have hkeys : Key.startTime ≠ Key.spanName := by decide
      have hid : ∀ (x : Context) (v w : Json),
          ((x.setValue Key.startTime v).setValue Key.spanName w).id = x.id := fun _ _ _ => rfl
      simp only [Operation.atBirth?, Operation.act, ho, hctx, Context.read?_setValue, hborn, hid]
      by_cases hstart : slot = .value Key.startTime
      · simp [hstart, hkeys]
      · by_cases hname : slot = .value Key.spanName <;> simp [hstart, hname, hkeys.symm]
  | _ => cases hop

end Realm
end EventRelay
