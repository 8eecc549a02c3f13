import EventRelay.Delivery.Exchange
import EventRelay.Proofs.Realm.Abandonment

/-!
# Observers of any kind

Who is told of spans and metrics may do anything when told: open a span as it likes, log, write to
contexts. An observation says what each observer does at each call, and the observers of this
library are one of many. Beside what lies downstream one may keep a notice of every call and of
every send, in the order in which they are made, which changes nothing that is done.

* `Observation`: what the observers do. `Observation.own`: those of this library.
* `Realm.Keeps`: no context is lost, derived anew or given to another observer.
* `Realm.Idles`: beside that, nothing happens downstream.
* `Realm.Begets`: a new context is derived from another and has its observer.
* `Observation.Derives`: an observer that opens spans in derived contexts. `own_derives`: those of
  this library do.
* `Notice`: a call or a send. `Observation.noting`: observers of whose calls notices are kept.
* `Observation.Commutes`, `Transport.Commutes`: observers and transports that do the same under
  another view of what lies downstream.
-/

namespace EventRelay

/-- What observers do: at the start of a span, which is in a context of its own, when something is
measured in it and when it ends. -/
structure Observation (σ : Type) where
  start : Observer → ContextId → String → Attributes → Realm σ → ContextId × Realm σ
  record : Observer → ContextId → String → Attributes → Int64 → Realm σ → Realm σ
  finish : Observer → ContextId → Attributes → Option String → Realm σ → Realm σ

/-- What the observers of this library do. -/
def Observation.own {σ : Type} : Observation σ where
  start _ parent name attributes r := r.openSpan parent name attributes
  record observer span metric attributes value r :=
    r.measure observer span metric attributes value
  finish observer span attributes error r := r.closeSpan observer span attributes error

namespace Realm

variable {σ : Type}

/-- No context is lost, and each stays derived from what it was derived from and has the observer
that it had. -/
structure Keeps (r r' : Realm σ) : Prop where
  size_le : r.contexts.size ≤ r'.contexts.size
  lineage_eq : ∀ c < r.contexts.size, r'.lineage c = r.lineage c
  observer_eq : ∀ c < r.contexts.size, r'.observerOf c = r.observerOf c

/-- Contexts and observers are kept, and nothing happens downstream. -/
structure Idles (r r' : Realm σ) : Prop extends Keeps r r' where
  downstream_eq : r'.downstream = r.downstream

/-- A new context is derived from another one and has its observer. -/
structure Begets (c span : ContextId) (r r' : Realm σ) : Prop extends Keeps r r' where
  le_span : r.contexts.size ≤ span
  span_lt : span < r'.contexts.size
  mem_lineage : c ∈ r'.lineage span
  observer_span : r'.observerOf span = r.observerOf c

namespace Keeps

variable {r r' r'' : Realm σ}

theorem of_contexts_eq (h : r'.contexts = r.contexts) : Keeps r r' := by
  have hcontext : ∀ c, r'.context c = r.context c := fun c => by rw [context, h]; rfl
  refine ⟨Nat.le_of_eq (by rw [h]), fun c _ => ?_, fun c _ => ?_⟩
  · rw [lineage, hcontext, lineage]
  · rw [observerOf, hcontext, observerOf]

theorem refl (r : Realm σ) : Keeps r r := .of_contexts_eq rfl

theorem trans (h : Keeps r r') (h' : Keeps r' r'') : Keeps r r'' where
  size_le := Nat.le_trans h.size_le h'.size_le
  lineage_eq c hc :=
    (h'.lineage_eq c (Nat.lt_of_lt_of_le hc h.size_le)).trans (h.lineage_eq c hc)
  observer_eq c hc :=
    (h'.observer_eq c (Nat.lt_of_lt_of_le hc h.size_le)).trans (h.observer_eq c hc)

/-- A context that has an observer is still there and has it. -/
theorem still (h : Keeps r r') {c : ContextId} {o : Observer}
    (hc : c < r.contexts.size ∧ r.observerOf c = o) :
    c < r'.contexts.size ∧ r'.observerOf c = o :=
  ⟨Nat.lt_of_lt_of_le hc.1 h.size_le, (h.observer_eq c hc.1).trans hc.2⟩

end Keeps

/-- What was made stays what it is. -/
theorem Begets.still {r r' r'' : Realm σ} {c span : ContextId} (h : Begets c span r r')
    (h' : Keeps r' r'') : Begets c span r r'' where
  toKeeps := h.toKeeps.trans h'
  le_span := h.le_span
  span_lt := Nat.lt_of_lt_of_le h.span_lt h'.size_le
  mem_lineage := by
    rw [h'.lineage_eq span h.span_lt]
    exact h.mem_lineage
  observer_span := (h'.observer_eq span h.span_lt).trans h.observer_span

theorem Quiet.observer_eq {r r' : Realm σ} (h : Quiet r r') {c : ContextId}
    (hc : c < r.contexts.size) : r'.observerOf c = r.observerOf c := by
  rw [observerOf, Context.observer, Context.handle?, h.handles_eq c hc]
  rfl

theorem Calm.keeps {r r' : Realm σ} (h : Calm r r') : Keeps r r' :=
  ⟨h.size_le, h.lineage_eq, fun _ hc => h.toQuiet.observer_eq hc⟩

theorem cancel_keeps (r : Realm σ) (d : ContextId) : Keeps r (r.cancel d) where
  size_le := (r.cancel_ages d).size_le
  lineage_eq := (r.cancel_ages d).lineage_eq
  observer_eq c hc := by
    rw [observerOf, r.context_cancel d hc]
    split <;> rfl

namespace Idles

variable {r r' r'' : Realm σ}

theorem of_contexts_eq (h : r'.contexts = r.contexts) (hd : r'.downstream = r.downstream) :
    Idles r r' := ⟨.of_contexts_eq h, hd⟩

theorem refl (r : Realm σ) : Idles r r := .of_contexts_eq rfl rfl

theorem trans (h : Idles r r') (h' : Idles r' r'') : Idles r r'' :=
  ⟨h.toKeeps.trans h'.toKeeps, h'.downstream_eq.trans h.downstream_eq⟩

end Idles

theorem Calm.idles {r r' : Realm σ} (h : Calm r r') : Idles r r' := ⟨h.keeps, h.downstream_eq⟩

theorem wait_idles (r : Realm σ) (source : TimeSource) (c : ContextId) (d : Duration) :
    Idles r (r.wait source c d).2 :=
  ⟨wait_lift .trans cancel_keeps (fun _ _ _ _ _ => .of_contexts_eq rfl) r source c d,
    r.downstream_wait source c d⟩

theorem isDuplicate_idles (r : Realm σ) (c : ContextId) (payload : ByteArray) :
    Idles r (r.isDuplicate c payload).2 := by
  unfold isDuplicate
  split
  · split <;> exact .of_contexts_eq rfl rfl
  · exact .refl r

theorem forget_idles (r : Realm σ) (c : ContextId) (payload : ByteArray) :
    Idles r (r.forget c payload) := by
  unfold forget
  split
  · split <;> exact .of_contexts_eq rfl rfl
  · exact .refl r

end Realm

/-! ## Observers that open spans in derived contexts -/

namespace Observation

variable {σ τ : Type}

/-- An observer that opens a span in a new context, derived from the one in which the span starts,
and at no call loses a context or registers another observer. -/
structure Derives (obs : Observation σ) (o : Observer) : Prop where
  start : ∀ c name attributes (r : Realm σ), c < r.contexts.size → r.observerOf c = o →
    r.Begets c (obs.start o c name attributes r).1 (obs.start o c name attributes r).2
  record : ∀ span metric attributes value r,
    Realm.Keeps r (obs.record o span metric attributes value r)
  finish : ∀ span attributes error r, Realm.Keeps r (obs.finish o span attributes error r)

/-- The observers of this library open spans in derived contexts. -/
theorem own_derives (o : Observer) : (own : Observation σ).Derives o where
  start c name attributes r hc _ := by
    obtain ⟨hlt, fresh, values, hspan⟩ := r.context_openSpan c name attributes
    have hkeeps := (Realm.Calm.of_quiet (r.openSpan_quiet c name attributes)
      (r.openSpan_ages hc name attributes)).keeps
    show r.Begets c (r.openSpan c name attributes).1 (r.openSpan c name attributes).2
    rw [r.openSpan_fst]
    refine ⟨hkeeps, Nat.le_refl _, hlt, ?_, ?_⟩
    · rw [Realm.lineage, hspan]
      exact List.mem_cons_self
    · rw [Realm.observerOf, hspan]
      rfl
  record span metric attributes value r := (r.measure_calm o span metric attributes value).keeps
  finish span attributes error r := (r.closeSpan_calm o span attributes error).keeps

end Observation

/-- A transport that keeps contexts and observers. -/
def Transport.Keeps {σ : Type} (t : Transport σ) : Prop :=
  ∀ span request r, Realm.Keeps r (t span request r).2

/-! ## Notices -/

/-- A transport of which notes are taken: for each send what it was asked, under which context, in
which realm, and how it came out. -/
def Transport.noting {σ β : Type}
    (note : ContextId → OutboundRequest → Realm σ → Outcome Exchange × Realm σ → β)
    (t : Transport σ) : Transport (σ × List β) :=
  fun span request r =>
    let sent := t span request (r.mapDownstream Prod.fst)
    (sent.1, sent.2.mapDownstream (fun s =>
      (s, r.downstream.2 ++ [note span request (r.mapDownstream Prod.fst) sent])))

/-- What comes back too late is cut off before it is noted, or after. -/
theorem Transport.noting_before {σ β : Type}
    (note : ContextId → OutboundRequest → Realm σ → Outcome Exchange × Realm σ → β)
    (t : Transport σ) (deadline : Option Nat) :
    ((t.before deadline).noting note).before deadline = (t.before deadline).noting note := by
  funext span request r
  refine Prod.ext ?_ rfl
  show (if (t span request (r.mapDownstream Prod.fst)).2.isLate deadline then _ else _) = _
  split
  · next hlate => exact (if_pos hlate).symm
  · rfl

theorem Transport.Keeps.noting {σ β : Type} {t : Transport σ} (h : t.Keeps)
    (note : ContextId → OutboundRequest → Realm σ → Outcome Exchange × Realm σ → β) :
    (Transport.noting note t).Keeps := by
  intro span request r
  have hkeeps := h span request (r.mapDownstream Prod.fst)
  exact ⟨hkeeps.size_le, hkeeps.lineage_eq, hkeeps.observer_eq⟩

/-- What is noticed of a piece of work: that an observer was told of something, and that something
was sent and how that came out. -/
inductive Notice where
  | told (observer : Observer) (call : ObserverCall)
  | sent (span : ContextId) (request : OutboundRequest) (outcome : Outcome Exchange)

/-- The notice of a send. -/
def Notice.ofSend {σ : Type} (span : ContextId) (request : OutboundRequest) (_ : Realm σ)
    (sent : Outcome Exchange × Realm σ) : Notice :=
  .sent span request sent.1

namespace Realm

variable {σ β : Type}

/-- What is done to a realm, done to one beside which notes are kept, and one note. -/
def noted (f : Realm σ → Realm σ) (note : β) (r : Realm (σ × List β)) : Realm (σ × List β) :=
  (f (r.mapDownstream Prod.fst)).mapDownstream fun s => (s, r.downstream.2 ++ [note])

end Realm

namespace Observation

variable {σ τ : Type}

/-- Observers of whose calls notices are kept beside what lies downstream. -/
def noting (obs : Observation σ) : Observation (σ × List Notice) where
  start o c name attributes r :=
    let started := obs.start o c name attributes (r.mapDownstream Prod.fst)
    (started.1, r.noted (fun _ => started.2) (.told o (.started c started.1 name attributes)))
  record o span metric attributes value r :=
    r.noted (obs.record o span metric attributes value)
      (.told o (.recorded span metric attributes value))
  finish o span attributes error r :=
    r.noted (obs.finish o span attributes error) (.told o (.ended span attributes error))

theorem Derives.noting {obs : Observation σ} {o : Observer} (h : obs.Derives o) :
    obs.noting.Derives o where
  start c name attributes r hc ho := by
    have hbegets := h.start c name attributes (r.mapDownstream Prod.fst) hc ho
    exact ⟨⟨hbegets.size_le, hbegets.lineage_eq, hbegets.observer_eq⟩, hbegets.le_span,
      hbegets.span_lt, hbegets.mem_lineage, hbegets.observer_span⟩
  record span metric attributes value r := by
    have hkeeps := h.record span metric attributes value (r.mapDownstream Prod.fst)
    exact ⟨hkeeps.size_le, hkeeps.lineage_eq, hkeeps.observer_eq⟩
  finish span attributes error r := by
    have hkeeps := h.finish span attributes error (r.mapDownstream Prod.fst)
    exact ⟨hkeeps.size_le, hkeeps.lineage_eq, hkeeps.observer_eq⟩

/-! ## Another view of what lies downstream -/

/-- Observers that do the same as others under another view of what lies downstream. -/
structure Commutes (f : σ → τ) (obs : Observation σ) (obs' : Observation τ) : Prop where
  start : ∀ o c name attributes r, obs'.start o c name attributes (r.mapDownstream f) =
    ((obs.start o c name attributes r).1, (obs.start o c name attributes r).2.mapDownstream f)
  record : ∀ o span metric attributes value r,
    obs'.record o span metric attributes value (r.mapDownstream f) =
      (obs.record o span metric attributes value r).mapDownstream f
  finish : ∀ o span attributes error r,
    obs'.finish o span attributes error (r.mapDownstream f) =
      (obs.finish o span attributes error r).mapDownstream f

/-- Who keeps notices does what is done without. -/
theorem noting_commutes (obs : Observation σ) : Commutes Prod.fst obs.noting obs :=
  ⟨fun _ _ _ _ _ => rfl, fun _ _ _ _ _ _ => rfl, fun _ _ _ _ _ => rfl⟩

theorem own_commutes (f : σ → τ) : Commutes f (own : Observation σ) own where
  start _ c name attributes r := r.openSpan_mapDownstream f c name attributes
  record o span metric attributes value r :=
    r.measure_mapDownstream f o span metric attributes value
  finish o span attributes error r := r.closeSpan_mapDownstream f o span attributes error

end Observation

/-- A transport that does the same as another under another view of what lies downstream. -/
def Transport.Commutes {σ τ : Type} (f : σ → τ) (t : Transport σ) (t' : Transport τ) : Prop :=
  ∀ span request r, t' span request (r.mapDownstream f) =
    ((t span request r).1, (t span request r).2.mapDownstream f)

/-- A deadline comes at the same time under any view. -/
theorem Transport.Commutes.before {σ τ : Type} {f : σ → τ} {t : Transport σ} {t' : Transport τ}
    (h : t.Commutes f t') (deadline : Option Nat) :
    Transport.Commutes f (t.before deadline) (t'.before deadline) := by
  intro span request r
  unfold Transport.before
  rw [h]
  rfl

theorem Transport.noting_commutes {σ β : Type}
    (note : ContextId → OutboundRequest → Realm σ → Outcome Exchange × Realm σ → β)
    (t : Transport σ) : Transport.Commutes Prod.fst (Transport.noting note t) t :=
  fun _ _ _ => rfl

end EventRelay
