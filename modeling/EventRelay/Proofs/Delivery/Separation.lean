import EventRelay.Proofs.Delivery.Passages
import EventRelay.Proofs.Realm.Correlation
import EventRelay.Proofs.Tables

/-!
# The sends of a delivery are kept apart

Each send has a context of its own, on which the transport may write what it likes. This module says
that none of it comes through: not to the caller, whose context is afterwards what it was but for
the number of the last send, and not to a later send, which starts from the caller's bags again.

* `Context.awake`: a context apart from whether it was abandoned.
* `Context.IsAttemptOf`: what a send sees of its caller.
* `Transport.Sparing`: a transport that writes to the context of the send and to no other.
* `attempt_separate`: one turn of a delivery. `attemptsFrom_separate`: all turns from one on.
* `retry_separate`: what a delivery leaves of the caller's context, and what each send sees.
-/

namespace EventRelay

variable {σ : Type}

namespace Context

/-- A context apart from whether it was abandoned. -/
def awake (x : Context) : Context := { x with cancelled := false }

/-- What the send of a number sees of its caller: the bags of the caller with its own number, the
handles, the logging and the sink, and an id that is the caller's, or a fresh one if the caller has
none, and that stands among its log values; an observer that logs adds the start and the name of the
span. -/
structure IsAttemptOf (caller : Context) (number : Nat) (x : Context) : Prop where
  logValues_eq : x.logValues =
    (caller.logValues.insert Key.attempt (.ofNat number)).insert Key.traceId (.str x.id)
  values_eq : caller.observer = .inert ∧ x.values = caller.values ∨
    ∃ time started, caller.observer = .tracing time ∧
      x.values = (caller.values.insert Key.startTime (.ofUInt64 started)).insert Key.spanName
        (.str SpanName.httpRequest)
  handles_eq : x.handles = caller.handles
  logging_eq : x.logging = caller.logging
  sink_eq : x.sink = caller.sink
  id_eq : caller.id = "" ∧ Uuid.isVersion4 x.id = true ∨ caller.id ≠ "" ∧ x.id = caller.id

/-- Contexts that are the same apart from whether they were abandoned agree in what they hold. -/
theorem eq_of_awake {x y : Context} (h : x.awake = y.awake) :
    x.id = y.id ∧ x.values = y.values ∧ x.logValues = y.logValues ∧ x.handles = y.handles ∧
      x.logging = y.logging ∧ x.sink = y.sink := by
  simp only [awake, mk.injEq] at h
  obtain ⟨hid, hvalues, hlog, hhandles, hlogging, hsink, -⟩ := h
  exact ⟨hid, hvalues, hlog, hhandles, hlogging, hsink⟩

theorem observer_congr {x y : Context} (h : x.handles = y.handles) : x.observer = y.observer := by
  unfold observer handle?
  rw [h]

/-- The number of an earlier send does not count. -/
theorem IsAttemptOf.of_awake {caller later x : Context} {number earlier : Nat}
    (h : later.IsAttemptOf number x)
    (hlater : later.awake = (caller.setLogValue Key.attempt (.ofNat earlier)).awake) :
    caller.IsAttemptOf number x := by
  obtain ⟨hid, hvalues, hlog, hhandles, hlogging, hsink⟩ := eq_of_awake hlater
  have hobserver : later.observer = caller.observer := observer_congr hhandles
  refine ⟨?_, ?_, h.handles_eq.trans hhandles, h.logging_eq.trans hlogging,
    h.sink_eq.trans hsink, ?_⟩
  · rw [h.logValues_eq, hlog]
    simp only [setLogValue, Entries.insert_insert_self]
  · have hsame : later.values = caller.values := hvalues
    have := h.values_eq
    rwa [hobserver, hsame] at this
  · have hsame : later.id = caller.id := hid
    have := h.id_eq
    rwa [hsame] at this

/-- Of two writes to one name the later counts. -/
theorem awake_setLogValue {x y : Context} {name : String} {value : Json}
    (h : x.awake = (y.setLogValue name value).awake) (value' : Json) :
    (x.setLogValue name value').awake = (y.setLogValue name value').awake := by
  have hagain : (y.setLogValue name value).setLogValue name value' =
      y.setLogValue name value' := by
    simp only [setLogValue, Entries.insert_insert_self]
  calc (x.setLogValue name value').awake
      = x.awake.setLogValue name value' := rfl
    _ = ((y.setLogValue name value).setLogValue name value').awake := by rw [h]; rfl
    _ = (y.setLogValue name value').awake := by rw [hagain]

end Context

/-! ## What is spared -/

/-- Contexts are only added and abandoned, and none that there was is written to. -/
structure Realm.Spares (r r' : Realm σ) : Prop where
  size_le : r.contexts.size ≤ r'.contexts.size
  awake_eq : ∀ c < r.contexts.size, (r'.context c).awake = (r.context c).awake

/-- A transport that writes to the context of the send, makes others and abandons what it likes, but
writes to no other context that there was. -/
def Transport.Sparing (t : Transport σ) : Prop :=
  ∀ span request r, r.contexts.size ≤ (t span request r).2.contexts.size ∧
    ∀ c < r.contexts.size, c ≠ span → ((t span request r).2.context c).awake = (r.context c).awake

namespace Realm

variable {r r' r'' : Realm σ}

namespace Spares

theorem of_contexts_eq (h : r'.contexts = r.contexts) : Spares r r' :=
  ⟨Nat.le_of_eq (by rw [h]), fun c _ => by rw [context, h]; rfl⟩

theorem trans (h : Spares r r') (h' : Spares r' r'') : Spares r r'' where
  size_le := Nat.le_trans h.size_le h'.size_le
  awake_eq c hc := (h'.awake_eq c (Nat.lt_of_lt_of_le hc h.size_le)).trans (h.awake_eq c hc)

end Spares

theorem cancel_spares (r : Realm σ) (d : ContextId) : Spares r (r.cancel d) := by
  refine ⟨by simp [cancel], fun c hc => ?_⟩
  rw [r.context_cancel d hc]
  split <;> rfl

theorem log_spares (r : Realm σ) (c : ContextId) (level : LogLevel) (message : String)
    (fields : List (String × String)) : Spares r (r.log c level message fields) :=
  ⟨(r.log_quiet c level message fields).size_le, fun d _ => by rw [context_log]⟩

theorem wait_spares (r : Realm σ) (source : TimeSource) (c : ContextId) (d : Duration) :
    Spares r (r.wait source c d).2 :=
  wait_lift .trans cancel_spares (fun _ _ _ _ _ => .of_contexts_eq rfl) r source c d

end Realm

theorem Transport.Sparing.watched {t : Transport σ} (ht : Transport.Sparing t) :
    Transport.Sparing (Transport.watched t) :=
  fun span request r => ht span request (r.mapDownstream Prod.fst)

theorem Transport.Sparing.before {t : Transport σ} (ht : Transport.Sparing t)
    (deadline : Option Nat) : Transport.Sparing (t.before deadline) := ht

namespace Courier

variable {d : Courier} {t : Transport σ} {c : ContextId} {request : OutboundRequest}

/-! ## One send after the other -/

/-- The context in which an attempt sends. -/
theorem opened_isAttemptOf {caller : Context} {number : Nat} {r : Realm σ}
    (hcaller : (r.context c).awake = (caller.setLogValue Key.attempt (.ofNat number)).awake)
    (request : OutboundRequest) :
    caller.IsAttemptOf number ((opened c request r).context r.contexts.size) := by
  obtain ⟨hid, hvalues, hlog, hhandles, hlogging, hsink⟩ := Context.eq_of_awake hcaller
  have hobserver : r.observerOf c = caller.observer := Context.observer_congr hhandles
  obtain ⟨fresh, hborn⟩ := r.context_derive c
  have hissued : ((r.derive c).2.context r.contexts.size).id = r.issuedId c := r.id_derive c
  have hknown : caller.id = "" ∧ Uuid.isVersion4 (r.issuedId c) = true ∨
      caller.id ≠ "" ∧ r.issuedId c = caller.id := by
    have hsame : (r.context c).id = caller.id := hid
    by_cases hempty : caller.id = ""
    · exact .inl ⟨hempty, Realm.isVersion4_issuedId (by rw [hsame, hempty]; rfl)⟩
    · exact .inr ⟨hempty, by rw [Realm.issuedId, hsame, if_neg (by simpa using hempty)]⟩
  rw [opened, r.context_openSpan_size, hobserver]
  rw [← hissued] at hknown
  -- Of the new context only its id and where its bags come from matter from here on.
  generalize (r.derive c).2.context r.contexts.size = x at hborn hknown
  have hbag : x.logValues = (caller.logValues.insert Key.attempt (.ofNat number)).insert
      Key.traceId (.str x.id) := by
    have hown : x.logValues = (r.context c).logValues.insert Key.traceId (.str x.id) := by
      rw [hborn]
      rfl
    rw [hown, hlog]
    rfl
  have hvalues' : x.values = caller.values := by
    rw [hborn]
    exact hvalues
  have hhandles' : x.handles = caller.handles := by
    rw [hborn]
    exact hhandles
  have hlogging' : x.logging = caller.logging := by
    rw [hborn]
    exact hlogging
  have hsink' : x.sink = caller.sink := by
    rw [hborn]
    exact hsink
  cases ho : caller.observer with
  | inert => exact ⟨hbag, .inl ⟨ho, hvalues'⟩, hhandles', hlogging', hsink', hknown⟩
  | tracing time =>
    refine ⟨hbag, .inr ⟨time, r.wallTime time, ho, ?_⟩, hhandles', hlogging', hsink', hknown⟩
    rw [← hvalues']
    rfl

/-- An attempt spares its caller and all else that there was. -/
theorem attempt_spares (ht : Transport.Sparing t) (r : Realm σ) :
    Realm.Spares r (d.attempt t c request r).2 := by
  obtain ⟨sent, r', rfl, he, h⟩ := d.attempt_shape t c request r
  obtain ⟨hsize, hsent⟩ := ht r.contexts.size request (opened c request r)
  have hopened : (opened c request r).contexts.size = r.contexts.size + 1 := r.size_openSpan ..
  have hspares : Realm.Spares r (t r.contexts.size request (opened c request r)).2 := by
    refine ⟨by omega, fun x hx => ?_⟩
    rw [hsent x (by omega) (Nat.ne_of_lt hx), opened, r.context_openSpan_of_lt hx]
  rw [he]
  obtain rfl | ⟨observer, metric, attributes, value, error, rfl⟩ := h
  · exact hspares
  · have hquiet := (Realm.measure_quiet (t r.contexts.size request (opened c request r)).2 observer
      r.contexts.size metric attributes value).trans
      (Realm.closeSpan_quiet _ observer r.contexts.size attributes error)
    refine hspares.trans ⟨hquiet.size_le, fun x _ => ?_⟩
    rw [Realm.context_closeSpan, Realm.context_measure]

/-- **One turn.** The send of a turn sees the caller's bags with its number, and the turn spares all
that there was but for that number. -/
theorem attempt_separate (ht : Transport.Sparing t) (number : Nat) {r : Realm (σ × List Passage)}
    (hc : c < r.contexts.size) {tried : Outcome Exchange × Realm (σ × List Passage)}
    (htried : tried = d.attempt (Transport.watched t) c request
      (r.setLogValue c Key.attempt (.ofNat number))) :
    ∃ passage : Passage, tried.2.downstream.2 = r.downstream.2 ++ [passage] ∧
      (r.context c).IsAttemptOf number passage.context ∧
      r.contexts.size ≤ tried.2.contexts.size ∧
      (tried.2.context c).awake =
        ((r.context c).setLogValue Key.attempt (.ofNat number)).awake := by
  obtain ⟨numbered, hnumbered⟩ : ∃ s, s = r.setLogValue c Key.attempt (.ofNat number) :=
    ⟨_, rfl⟩
  have hquiet := r.setLogValue_quiet c Key.attempt (.ofNat number)
  have hself : numbered.context c = (r.context c).setLogValue Key.attempt (.ofNat number) := by
    rw [hnumbered, Realm.setLogValue, r.context_update_self hc]
  rw [← hnumbered] at htried hquiet
  obtain ⟨r', he, hafter⟩ := d.attempt_cases (Transport.watched t) c request numbered
  have hopened := numbered.openSpan_quiet c SpanName.httpRequest
    [(AttributeName.httpUrl, request.url)]
  have hspares : Realm.Spares numbered (d.attempt (Transport.watched t) c request numbered).2 :=
    attempt_spares ht.watched numbered
  have hlt := Nat.lt_of_lt_of_le hc hquiet.size_le
  refine ⟨⟨request, (opened c request numbered).context numbered.contexts.size,
    (opened c request numbered).rests,
    (Transport.watched t numbered.contexts.size request (opened c request numbered)).1,
    (Transport.watched t numbered.contexts.size request (opened c request numbered)).2.rests⟩, ?_,
    opened_isAttemptOf (congrArg Context.awake hself) request, ?_, ?_⟩
  · rw [htried, he]
    dsimp only
    rw [hafter.downstream_eq, ← hquiet.downstream_eq, ← hopened.downstream_eq]
    rfl
  · rw [htried]
    exact Nat.le_trans hquiet.size_le hspares.size_le
  · rw [htried, hspares.awake_eq c hlt, hself]

/-- **All turns.** From the attempt of a number on the sends see the caller's bags with one number
after the other, and the caller's context is left with the last of them. -/
theorem attemptsFrom_separate (ht : Transport.Sparing t) (d : Courier)
    (request : OutboundRequest) (left number : Nat) (backoff : Duration)
    (r : Realm (σ × List Passage)) (hc : c < r.contexts.size) :
    ∃ first later, (d.attemptsFrom none (Transport.watched t) c request left number backoff
        r).2.downstream.2 = r.downstream.2 ++ first :: later ∧
      ((d.attemptsFrom none (Transport.watched t) c request left number backoff r).2.context
          c).awake =
        ((r.context c).setLogValue Key.attempt (.ofNat (number + later.length))).awake ∧
      ∀ (k : Nat) (passage : Passage), (first :: later)[k]? = some passage →
        (r.context c).IsAttemptOf (number + k) passage.context := by
  induction left using Nat.strongRecOn generalizing number backoff r with
  | _ left ih =>
    obtain ⟨tried, htried, h⟩ :=
      d.attemptsFrom_cases none (Transport.watched t) c request left number backoff r
    rw [attemptBefore_none] at htried
    obtain ⟨first, hsent, hfirst, hsize, hleft⟩ := attempt_separate ht number hc htried
    have hlast : ∀ r', Realm.Spares tried.2 r' → r'.downstream = tried.2.downstream →
        r'.downstream.2 = r.downstream.2 ++ first :: [] ∧
        (r'.context c).awake =
          ((r.context c).setLogValue Key.attempt (.ofNat (number + 0))).awake := by
      intro r' hr' hdown
      rw [hr'.awake_eq c (Nat.lt_of_lt_of_le hc hsize), hdown]
      exact ⟨hsent, hleft⟩
    have hone : ∀ (k : Nat) (passage : Passage), [first][k]? = some passage →
        (r.context c).IsAttemptOf (number + k) passage.context := by
      intro k passage hk
      cases k with
      | zero =>
        obtain rfl := Option.some.inj hk
        exact hfirst
      | succ k => cases hk
    obtain ⟨-, he⟩ | ⟨x, -, -, ⟨-, he⟩ | ⟨left', delay, backoff', waited, rfl, -, rfl, h⟩⟩ := h
    · rw [he]
      obtain ⟨hdown, hcontext⟩ := hlast tried.2 (.of_contexts_eq rfl) rfl
      exact ⟨first, [], hdown, hcontext, hone⟩
    · rw [he]
      obtain ⟨hdown, hcontext⟩ := hlast (logExhausted c request x tried.2) (Realm.log_spares ..)
        (Realm.log_quiet ..).downstream_eq
      exact ⟨first, [], hdown, hcontext, hone⟩
    · have hwaited : Realm.Spares tried.2 ((logRetry c x delay tried.2).wait d.time c delay).2 :=
        (Realm.log_spares ..).trans (Realm.wait_spares ..)
      have hdown : ((logRetry c x delay tried.2).wait d.time c delay).2.downstream =
          tried.2.downstream :=
        (Realm.downstream_wait ..).trans (Realm.log_quiet ..).downstream_eq
      obtain ⟨-, he⟩ | ⟨-, he⟩ := h
      · rw [he]
        obtain ⟨hdown', hcontext⟩ := hlast _ (hwaited.trans (Realm.log_spares _ c .info
          "retry cancelled" [])) ((Realm.log_quiet ..).downstream_eq.trans hdown)
        exact ⟨first, [], hdown', hcontext, hone⟩
      · have hagain := (hwaited.awake_eq c (Nat.lt_of_lt_of_le hc hsize)).trans hleft
        obtain ⟨next, later, hmore, hcontext, hall⟩ := ih left' (Nat.lt_succ_self _) (number + 1)
          backoff' _ (Nat.lt_of_lt_of_le hc (Nat.le_trans hsize hwaited.size_le))
        rw [he]
        refine ⟨first, next :: later, ?_, ?_, fun k passage hk => ?_⟩
        · rw [hmore, hdown, hsent]
          simp
        · rw [hcontext, Context.awake_setLogValue hagain, List.length_cons, Nat.add_assoc,
            Nat.add_comm 1]
        · cases k with
          | zero =>
            obtain rfl := Option.some.inj hk
            exact hfirst
          | succ k =>
            rw [← Nat.add_assoc, Nat.add_right_comm]
            exact (hall k passage hk).of_awake hagain

/-- **Separation.** Through a transport that may write what it likes to the context of each send, a
delivery leaves the caller's context as it was but for the number of its sends, and apart from
whether it was abandoned. Each send sees the caller's bags with its own number and its own id among
the log values, and nothing that an earlier send wrote. -/
theorem retry_separate (ht : Transport.Sparing t) (d : Courier) (request : OutboundRequest)
    {r : Realm σ} (hc : c < r.contexts.size) :
    0 < (d.passages t c request r).length ∧
    ((d.retry t c request r).2.context c).awake = ((r.context c).setLogValue Key.attempt
      (.ofNat (d.passages t c request r).length)).awake ∧
    ∀ (k : Nat) (passage : Passage), (d.passages t c request r)[k]? = some passage →
      (r.context c).IsAttemptOf (k + 1) passage.context := by
  obtain ⟨first, later, hsends, hcontext, hall⟩ := attemptsFrom_separate ht d request
    (d.plan.attemptLimit - 1) 1 d.plan.initialBackoff (r.mapDownstream fun s => (s, [])) hc
  have hpassages : d.passages t c request r = first :: later := hsends
  rw [hpassages]
  refine ⟨Nat.succ_pos _, ?_, fun k passage hk => ?_⟩
  · rw [d.watch_eq t c request r, List.length_cons, Nat.add_comm]
    exact hcontext
  · rw [Nat.add_comm]
    exact hall k passage hk

/-- A transport that writes all over the context of a send, and is never served. -/
def scribbling : Transport Unit := fun span _ r =>
  (.returned (.response 503 .empty), ((((r.setLogValue span Key.attempt (.str "mine")).setValue span
    Key.tenantId (.str "acme")).setId span "other").setLogging span false).cancel span)

/-- A realm with one context, which has no id and no observer. -/
def nameless : Realm Unit :=
  ((Realm.start (.startingAt 0) (fun n => n) (fun _ => "") ()).addRoot .kept).2

theorem scribbling_sparing : Transport.Sparing scribbling := by
  intro span request r
  refine ⟨?_, fun c hc hne => ?_⟩
  · simp [scribbling, Realm.setLogValue, Realm.setValue, Realm.setId, Realm.setLogging,
      Realm.update, Realm.cancel]
  · unfold scribbling
    dsimp only
    rw [(Realm.cancel_spares _ span).awake_eq c (by
      simpa [Realm.setLogValue, Realm.setValue, Realm.setId, Realm.setLogging, Realm.update] using
        hc)]
    simp only [Realm.setLogValue, Realm.setValue, Realm.setId, Realm.setLogging]
    rw [Realm.context_update_ne _ hne, Realm.context_update_ne _ hne,
      Realm.context_update_ne _ hne, Realm.context_update_ne _ hne]

/-- A plan of three sends. -/
def thrice : Courier := ⟨{ RetryPlan.single with maxAttempts := 3 }, .shared⟩

theorem retry_separate_scribbling :
    Transport.Sparing scribbling ∧ 0 < nameless.contexts.size ∧
      (thrice.passages scribbling 0 (.post "http://down.test/" .empty) nameless).length = 3 ∧
      ((thrice.retry scribbling 0 (.post "http://down.test/" .empty) nameless).2.context 0).awake =
        ((nameless.context 0).setLogValue Key.attempt (.ofNat 3)).awake ∧
      ∀ (k : Nat) (passage : Passage),
        (thrice.passages scribbling 0 (.post "http://down.test/" .empty) nameless)[k]? =
          some passage → (nameless.context 0).IsAttemptOf (k + 1) passage.context := by
  have hlength : (thrice.passages scribbling 0 (.post "http://down.test/" .empty)
      nameless).length = 3 := by decide +kernel
  have hone : 0 < nameless.contexts.size := by decide
  obtain ⟨-, hcaller, hsends⟩ := retry_separate scribbling_sparing thrice
    (.post "http://down.test/" .empty) hone
  rw [hlength] at hcaller
  exact ⟨scribbling_sparing, hone, hlength, hcaller, hsends⟩

/-- The bags of a caller without an id are not all that its sends see, though nothing observes
them: each finds a fresh id among its log values. -/
theorem sends_see_more_than_bags :
    Transport.Sparing scribbling ∧ (nameless.context 0).observer = .inert ∧
      ¬ ∀ (k : Nat) (passage : Passage),
        (thrice.passages scribbling 0 (.post "http://down.test/" .empty) nameless)[k]? =
          some passage →
        passage.context.logValues =
          (nameless.context 0).logValues.insert Key.attempt (.ofNat (k + 1)) := by
  refine ⟨scribbling_sparing, rfl, fun hall => ?_⟩
  have hsizes : ((thrice.passages scribbling 0 (.post "http://down.test/" .empty)
      nameless)[0]?).map (fun passage => passage.context.logValues.length) = some 2 := by
    decide +kernel
  obtain ⟨passage, hfirst, htwo⟩ := Option.map_eq_some_iff.1 hsizes
  rw [hall 0 passage hfirst] at htwo
  revert htwo
  decide +kernel

end Courier
end EventRelay
