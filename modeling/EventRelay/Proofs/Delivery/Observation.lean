import EventRelay.Proofs.Delivery.Frame
import EventRelay.Proofs.Realm.Observation

/-!
# What observers are told of a delivery

Each attempt of a delivery is one span: the observer is told that it starts, then the request is
sent, and then the observer is told how long that took and that the span ends. This holds of
observers of any kind that open spans in derived contexts, and of any transport that leaves contexts
their observers.

* `Observation.attempt`, `Observation.attemptsFrom`, `Observation.sendBefore`: the delivery,
  whatever its observers do. `own_attempt`, `own_attemptsFrom`, `own_sendBefore`: with the observers
  of this library it is the delivery.
* `attempt_commutes`, `attemptsFrom_commutes`, `sendBefore_commutes`: it does the same under another
  view of what lies downstream.
* `Attempt`: one attempt. `Attempts`: the attempts between two realms and their notices.
* `sendBefore_attempts`: a delivery that comes to an end is attempts.
* `Script.send_keeps`, `HttpClient.send_keeps`: the transports of this library leave contexts their
  observers.
-/

namespace EventRelay

namespace Observation

variable {σ τ : Type}

/-- One send in its span. -/
def attempt (obs : Observation σ) (d : Courier) (transport : Transport σ) (c : ContextId)
    (request : OutboundRequest) (r : Realm σ) : Outcome Exchange × Realm σ :=
  let (span, r) := obs.start (r.observerOf c) c SpanName.httpRequest
    [(AttributeName.httpUrl, request.url)] r
  let observer := r.observerOf span
  let started := r.clock.elapsed
  match transport span request r with
  | (.returned x, r) =>
    let attributes := Courier.exchangeAttributes request x
    let r := obs.record observer span MetricName.httpRequestDuration attributes
      (Courier.metricOf (r.millisSince d.time started)) r
    (.returned x, obs.finish observer span attributes (x.error.map DeliveryFailure.message) r)
  | other => other

/-- The attempt of a number, for work with a deadline. -/
def attemptBefore (obs : Observation σ) (d : Courier) (deadline : Option Nat)
    (transport : Transport σ) (c : ContextId) (request : OutboundRequest) (number : Nat)
    (r : Realm σ) : Outcome Exchange × Realm σ :=
  if r.isLate deadline then (.hung, r)
  else
    obs.attempt d (transport.before deadline) c request
      (r.setLogValue c Key.attempt (.ofNat number))

/-- The delivery from an attempt on, with as many further ones left. -/
def attemptsFrom (obs : Observation σ) (d : Courier) (deadline : Option Nat)
    (transport : Transport σ) (c : ContextId) (request : OutboundRequest) :
    Nat → Nat → Duration → Realm σ → Outcome Exchange × Realm σ
  | left, number, backoff, r =>
    match obs.attemptBefore d deadline transport c request number r with
    | (.returned x, r) =>
      if x.isRetryable then
        match left with
        | 0 => (.returned x, Courier.logExhausted c request x r)
        | left + 1 =>
          let (delay, backoff) := d.plan.nextDelay number backoff
          match (Courier.logRetry c x delay r).wait d.time c delay with
          | (true, r) =>
            obs.attemptsFrom d deadline transport c request left (number + 1) backoff r
          | (false, r) =>
            (.returned { x with error := some (.cancelled (.ofNat number)) },
              r.log c .info "retry cancelled" [])
      else (.returned x, r)
    | other => other

/-- Sends a request before a deadline through the transport registered on its context. -/
def sendBefore (obs : Observation σ) (d : Courier) (deadline : Option Nat)
    (transport : Transport σ) (c : ContextId) (request : OutboundRequest) (r : Realm σ) :
    Outcome Exchange × Realm σ :=
  if (r.context c).hasTransport then
    obs.attemptsFrom d deadline transport c request (d.plan.attemptLimit - 1) 1
      d.plan.initialBackoff r
  else (.returned (.failed (.configuration "no HTTP transport registered")), r)

/-! ## The observers of this library -/

variable (d : Courier) (deadline : Option Nat) (t : Transport σ) (c : ContextId)
  (request : OutboundRequest)

theorem own_attempt : own.attempt d t c request = d.attempt t c request := rfl

theorem own_attemptBefore :
    own.attemptBefore d deadline t c request = d.attemptBefore deadline t c request := by
  funext number r
  rw [attemptBefore, own_attempt, Courier.attemptBefore]

theorem own_attemptsFrom (left : Nat) :
    own.attemptsFrom d deadline t c request left = d.attemptsFrom deadline t c request left := by
  induction left with
  | zero =>
    funext number backoff r
    rewrite [attemptsFrom, Courier.attemptsFrom, own_attemptBefore]
    rfl
  | succ left ih =>
    funext number backoff r
    rewrite [attemptsFrom, Courier.attemptsFrom, own_attemptBefore]
    dsimp only
    rewrite [ih]
    rfl

theorem own_sendBefore (r : Realm σ) :
    own.sendBefore d deadline t c request r = d.sendBefore deadline t c request r := by
  rw [sendBefore, own_attemptsFrom]
  rfl

/-! ## Another view of what lies downstream -/

variable {d deadline t c request} {f : σ → τ} {obs : Observation σ} {obs' : Observation τ}
  {t' : Transport τ}

theorem attempt_commutes (hobs : obs.Commutes f obs') (ht : t.Commutes f t') (r : Realm σ) :
    obs'.attempt d t' c request (r.mapDownstream f) =
      ((obs.attempt d t c request r).1,
        (obs.attempt d t c request r).2.mapDownstream f) := by
  unfold attempt
  rw [Realm.observerOf_mapDownstream, hobs.start]
  generalize obs.start _ c SpanName.httpRequest _ r = started
  obtain ⟨span, s⟩ := started
  dsimp only
  rw [ht]
  generalize t span request s = sent
  obtain ⟨outcome, s'⟩ := sent
  cases outcome with
  | returned x =>
    dsimp only
    rw [Realm.millisSince_mapDownstream, ← hobs.finish, ← hobs.record]
    rfl
  | panicked payload => rfl
  | hung => rfl

theorem attemptBefore_commutes (hobs : obs.Commutes f obs')
    (ht : (t.before deadline).Commutes f (t'.before deadline)) (number : Nat) (r : Realm σ) :
    obs'.attemptBefore d deadline t' c request number (r.mapDownstream f) =
      ((obs.attemptBefore d deadline t c request number r).1,
        (obs.attemptBefore d deadline t c request number r).2.mapDownstream f) := by
  unfold attemptBefore
  rw [show (r.mapDownstream f).isLate deadline = r.isLate deadline from rfl]
  cases r.isLate deadline with
  | true => rfl
  | false =>
    simp only [Bool.false_eq_true, if_false]
    rw [Realm.setLogValue_mapDownstream, attempt_commutes hobs ht]

theorem attemptsFrom_commutes (hobs : obs.Commutes f obs')
    (ht : (t.before deadline).Commutes f (t'.before deadline)) (left number : Nat)
    (backoff : Duration) (r : Realm σ) :
    obs'.attemptsFrom d deadline t' c request left number backoff (r.mapDownstream f) =
      ((obs.attemptsFrom d deadline t c request left number backoff r).1,
        (obs.attemptsFrom d deadline t c request left number backoff r).2.mapDownstream f) := by
  induction left using Nat.strongRecOn generalizing number backoff r with
  | _ left ih =>
    rw [attemptsFrom.eq_def, attemptsFrom.eq_def obs]
    dsimp only
    rw [attemptBefore_commutes hobs ht]
    generalize obs.attemptBefore d deadline t c request number r = tried
    obtain ⟨outcome, s⟩ := tried
    cases outcome with
    | returned x =>
      dsimp only
      cases x.isRetryable with
      | false => rfl
      | true =>
        cases left with
        | zero => simp only [Courier.logExhausted, Realm.log_mapDownstream, if_true]
        | succ left =>
          simp only [Courier.logRetry, Realm.log_mapDownstream, Realm.wait_mapDownstream, if_true]
          generalize Realm.wait _ _ _ _ = waited
          obtain ⟨completed, s'⟩ := waited
          cases completed with
          | false => simp only [Realm.log_mapDownstream]
          | true => exact ih left (Nat.lt_succ_self _) _ _ s'
    | panicked payload => rfl
    | hung => rfl

theorem sendBefore_commutes (hobs : obs.Commutes f obs') (ht : t.Commutes f t') (r : Realm σ) :
    obs'.sendBefore d deadline t' c request (r.mapDownstream f) =
      ((obs.sendBefore d deadline t c request r).1,
        (obs.sendBefore d deadline t c request r).2.mapDownstream f) := by
  unfold sendBefore
  rw [Realm.context_mapDownstream]
  by_cases h : (r.context c).hasTransport = true
  · rw [if_pos h, if_pos h]
    exact attemptsFrom_commutes hobs (ht.before deadline) _ _ _ r
  · rw [if_neg h, if_neg h]

end Observation

/-! ## Attempts -/

/-- One attempt: its span, what its send brought back, and the metric of how long that took. -/
structure Attempt where
  span : ContextId
  exchange : Exchange
  duration : Int64

/-- What is noticed of an attempt: the start of its span, its send, how long that took, and the end
of its span, with the error of the exchange if it has one. -/
def Attempt.notices (o : Observer) (parent : ContextId) (request : OutboundRequest) (a : Attempt) :
    List Notice :=
  [.told o (.started parent a.span SpanName.httpRequest [(AttributeName.httpUrl, request.url)]),
    .sent a.span request (.returned a.exchange),
    .told o (.recorded a.span MetricName.httpRequestDuration
      (Courier.exchangeAttributes request a.exchange) a.duration),
    .told o (.ended a.span (Courier.exchangeAttributes request a.exchange)
      (a.exchange.error.map DeliveryFailure.message))]

/-- From one realm to another by attempts: their notices were added, and each has a new span of its
own, derived from the context of the delivery. -/
structure Attempts {σ : Type} (o : Observer) (c : ContextId) (request : OutboundRequest)
    (attempts : List Attempt) (r r' : Realm (σ × List Notice)) : Prop
    extends Realm.Keeps r r' where
  notices_eq :
    r'.downstream.2 = r.downstream.2 ++ attempts.flatMap (Attempt.notices o c request)
  ordered : (attempts.map Attempt.span).Pairwise (· < ·)
  le_span : ∀ a ∈ attempts, r.contexts.size ≤ a.span
  span_lt : ∀ a ∈ attempts, a.span < r'.contexts.size
  mem_lineage : ∀ a ∈ attempts, c ∈ r'.lineage a.span

namespace Attempts

variable {σ : Type} {o : Observer} {c : ContextId} {request : OutboundRequest}
  {attempts more : List Attempt} {r r' r'' : Realm (σ × List Notice)}

/-- A step that is no attempt. -/
theorem of_idles (h : Realm.Idles r r') : Attempts o c request [] r r' :=
  ⟨h.toKeeps, by simp [h.downstream_eq], .nil, by simp, by simp, by simp⟩

theorem trans (h : Attempts o c request attempts r r') (h' : Attempts o c request more r' r'') :
    Attempts o c request (attempts ++ more) r r'' where
  toKeeps := h.toKeeps.trans h'.toKeeps
  notices_eq := by rw [h'.notices_eq, h.notices_eq, List.append_assoc, List.flatMap_append]
  ordered := by
    rw [List.map_append, List.pairwise_append]
    refine ⟨h.ordered, h'.ordered, fun i hi j hj => ?_⟩
    obtain ⟨a, ha, rfl⟩ := List.mem_map.1 hi
    obtain ⟨b, hb, rfl⟩ := List.mem_map.1 hj
    exact Nat.lt_of_lt_of_le (h.span_lt a ha) (h'.le_span b hb)
  le_span a ha := by
    obtain ha | ha := List.mem_append.1 ha
    · exact h.le_span a ha
    · exact Nat.le_trans h.size_le (h'.le_span a ha)
  span_lt a ha := by
    obtain ha | ha := List.mem_append.1 ha
    · exact Nat.lt_of_lt_of_le (h.span_lt a ha) h'.size_le
    · exact h'.span_lt a ha
  mem_lineage a ha := by
    obtain ha | ha := List.mem_append.1 ha
    · rw [h'.lineage_eq a.span (h.span_lt a ha)]
      exact h.mem_lineage a ha
    · exact h'.mem_lineage a ha

/-- Attempts after a step that is none. -/
theorem after (h' : Attempts o c request more r' r'') (h : Realm.Idles r r') :
    Attempts o c request more r r'' :=
  (of_idles h).trans h'

/-- A step that is no attempt, after attempts. -/
theorem idles (h : Attempts o c request attempts r r') (h' : Realm.Idles r' r'') :
    Attempts o c request attempts r r'' := by
  rw [← List.append_nil attempts]
  exact h.trans (of_idles h')

end Attempts

namespace Observation

variable {σ : Type} {obs : Observation σ} {o : Observer} {d : Courier} {deadline : Option Nat}
  {t : Transport σ} {c : ContextId} {request : OutboundRequest}
  {r s : Realm (σ × List Notice)} {x : Exchange}

/-- An attempt whose send brought an exchange back. -/
theorem attempt_attempts (hobs : obs.Derives o) (ht : t.Keeps)
    (hc : c < r.contexts.size ∧ r.observerOf c = o)
    (h : obs.noting.attempt d (t.noting Notice.ofSend) c request r = (.returned x, s)) :
    ∃ a : Attempt, a.exchange = x ∧ Attempts o c request [a] r s := by
  have hstart := hobs.noting.start c SpanName.httpRequest [(AttributeName.httpUrl, request.url)] r
    hc.1 hc.2
  have hstarted : (obs.noting.start o c SpanName.httpRequest
      [(AttributeName.httpUrl, request.url)] r).2.downstream.2 = r.downstream.2 ++
        [.told o (.started c (obs.noting.start o c SpanName.httpRequest
          [(AttributeName.httpUrl, request.url)] r).1 SpanName.httpRequest
            [(AttributeName.httpUrl, request.url)])] := rfl
  unfold attempt at h
  rw [hc.2] at h
  generalize obs.noting.start o c _ _ r = started at hstart hstarted h
  obtain ⟨span, s₁⟩ := started
  dsimp only at hstart hstarted h
  have hsend := ht.noting Notice.ofSend span request s₁
  have hsent : (t.noting Notice.ofSend span request s₁).2.downstream.2 = s₁.downstream.2 ++
      [.sent span request (t.noting Notice.ofSend span request s₁).1] := rfl
  rw [hstart.observer_span, hc.2] at h
  generalize t.noting Notice.ofSend span request s₁ = sent at hsend hsent h
  obtain ⟨outcome, s₂⟩ := sent
  cases outcome with
  | panicked payload => cases h
  | hung => cases h
  | returned y =>
    cases h
    generalize Courier.metricOf _ = duration
    have hrecord := hobs.noting.record span MetricName.httpRequestDuration
      (Courier.exchangeAttributes request x) duration s₂
    have hkeeps := (hsend.trans hrecord).trans (hobs.noting.finish span
      (Courier.exchangeAttributes request x) (x.error.map DeliveryFailure.message) _)
    refine ⟨⟨span, x, duration⟩, rfl, hstart.toKeeps.trans hkeeps, ?_, List.pairwise_singleton _ _,
      ?_, ?_, ?_⟩
    · show s₂.downstream.2 ++ [_] ++ [_] = _
      rw [hsent, hstarted]
      simp [Attempt.notices]
    · simpa using hstart.le_span
    · simpa using Nat.lt_of_lt_of_le hstart.span_lt hkeeps.size_le
    · simpa [hkeeps.lineage_eq span hstart.span_lt] using hstart.mem_lineage

/-- An attempt that brought an exchange back did so as without a deadline. -/
theorem attempt_of_attemptBefore {τ : Type} {obs : Observation τ} {t : Transport τ}
    {r s : Realm τ} {number : Nat}
    (h : obs.attemptBefore d deadline t c request number r = (.returned x, s)) :
    obs.attempt d t c request (r.setLogValue c Key.attempt (.ofNat number)) = (.returned x, s) := by
  unfold attemptBefore at h
  split at h
  · cases h
  · unfold attempt Transport.before at h
    unfold attempt
    generalize obs.start _ c _ _ _ = started at h ⊢
    obtain ⟨span, s₁⟩ := started
    dsimp only at h ⊢
    generalize t span request s₁ = sent at h ⊢
    cases hlate : sent.2.isLate deadline with
    | true =>
      rw [hlate, if_pos rfl] at h
      cases h
    | false =>
      rw [hlate, if_neg (by decide)] at h
      exact h

/-- The attempts of a delivery that brought an exchange back. -/
theorem attemptsFrom_attempts (hobs : obs.Derives o) (ht : t.Keeps) (left number : Nat)
    (backoff : Duration) {r : Realm (σ × List Notice)}
    (hc : c < r.contexts.size ∧ r.observerOf c = o)
    (h : obs.noting.attemptsFrom d deadline (t.noting Notice.ofSend) c request left number backoff
      r = (.returned x, s)) :
    ∃ attempts, Attempts o c request attempts r s := by
  induction left using Nat.strongRecOn generalizing number backoff r with
  | _ left ih =>
    have hnumbered := (r.setLogValue_calm c Key.attempt (.ofNat number)).idles
    rw [attemptsFrom.eq_def] at h
    dsimp only at h
    generalize htried : obs.noting.attemptBefore d deadline (t.noting Notice.ofSend) c request
      number r = tried at h
    obtain ⟨outcome, s₁⟩ := tried
    cases outcome with
    | panicked payload => cases h
    | hung => cases h
    | returned y =>
      obtain ⟨a, rfl, hattempt⟩ := attempt_attempts hobs ht (hnumbered.still hc)
        (attempt_of_attemptBefore htried)
      have hfirst := hattempt.after hnumbered
      dsimp only at h
      split at h
      · cases left with
        | zero =>
          have hlog := s₁.log_calm c .warn "retries exhausted"
            [("status", toString a.exchange.status.toNat), ("url", request.url)]
          cases h
          exact ⟨_, hfirst.idles hlog.idles⟩
        | succ left =>
          dsimp only at h
          generalize (d.plan.nextDelay number backoff).1 = delay at h
          have hlog : Realm.Calm s₁ (Courier.logRetry c a.exchange delay s₁) := s₁.log_calm ..
          have hwait := (Courier.logRetry c a.exchange delay s₁).wait_idles d.time c delay
          generalize Realm.wait _ d.time c delay = waited at h hwait
          obtain ⟨completed, s₂⟩ := waited
          have hwaited := hfirst.idles (hlog.idles.trans hwait)
          cases completed with
          | true =>
            obtain ⟨more, hmore⟩ := ih left (Nat.lt_succ_self left) _ _ (hwaited.still hc) h
            exact ⟨_, hwaited.trans hmore⟩
          | false =>
            have hcancelled := s₂.log_calm c .info "retry cancelled" []
            cases h
            exact ⟨_, hwaited.idles hcancelled.idles⟩
      · cases h
        exact ⟨_, hfirst⟩

/-- **Attempts.** A delivery that comes to an end is attempts, one after the other. -/
theorem sendBefore_attempts (hobs : obs.Derives o) (ht : t.Keeps)
    (hc : c < r.contexts.size ∧ r.observerOf c = o)
    (h : obs.noting.sendBefore d deadline (t.noting Notice.ofSend) c request r =
      (.returned x, s)) :
    ∃ attempts, Attempts o c request attempts r s := by
  unfold sendBefore at h
  split at h
  · exact attemptsFrom_attempts hobs ht _ _ _ hc h
  · cases h
    exact ⟨[], .of_idles (.refl r)⟩

end Observation

/-! ## The transports of this library -/

theorem Script.send_keeps : Transport.Keeps Script.send :=
  bears_send ⟨.trans, fun h _ => .of_contexts_eq h, Realm.cancel_keeps⟩

theorem HttpClient.send_keeps : Transport.Keeps HttpClient.send := by
  intro span request r
  unfold HttpClient.send
  exact .of_contexts_eq rfl

end EventRelay
