import EventRelay.Delivery.Courier
import EventRelay.Delivery.Scripted
import EventRelay.Http.Client
import EventRelay.Proofs.Realm.Frame

/-!
# What a delivery leaves as it was

A delivery does to the realm what its transport does, and apart from that it only waits.

* `Transport.Retains`: a transport that leaves the duplicate cache alone.
* `Courier.attempt_cases`: an attempt comes out as its send. `Courier.attemptBefore_cases`: before a
  deadline it is made in time, or it is not made. `Courier.attemptsFrom_cases`: what a delivery does
  after an attempt.
* `Courier.sendBefore_retains`: a delivery through such a transport leaves the cache alone as well.
* `Script.bears_send`: what a send through a script may do to the realm, by the steps that a fault
  is made of.
* `Script.send_retains`, `HttpClient.send_retains`: the transports of this library are such ones.
-/

namespace EventRelay

variable {σ : Type}

/-- A transport that loses no context, and touches neither the duplicate cache nor who knows of
it. -/
def Transport.Retains (t : Transport σ) : Prop :=
  ∀ span request r, Realm.Retains r (t span request r).2

theorem Transport.Retains.before {t : Transport σ} (ht : t.Retains) (deadline : Option Nat) :
    (t.before deadline).Retains := ht

namespace Courier

variable {d : Courier} {t : Transport σ}

/-- The realm in which an attempt sends: its span is open. -/
def opened (c : ContextId) (request : OutboundRequest) (r : Realm σ) : Realm σ :=
  (r.openSpan c SpanName.httpRequest [(AttributeName.httpUrl, request.url)]).2

theorem openSpan_eq_opened (c : ContextId) (request : OutboundRequest) (r : Realm σ) :
    r.openSpan c SpanName.httpRequest [(AttributeName.httpUrl, request.url)] =
      (r.contexts.size, opened c request r) := by
  rw [← r.openSpan_fst c SpanName.httpRequest [(AttributeName.httpUrl, request.url)]]
  rfl

/-- An attempt comes out as its send; after a send that brought back an exchange it measures and
closes its span. -/
theorem attempt_shape (d : Courier) (t : Transport σ) (c : ContextId) (request : OutboundRequest)
    (r : Realm σ) :
    ∃ sent r', sent = t r.contexts.size request (opened c request r) ∧
      d.attempt t c request r = (sent.1, r') ∧
      (r' = sent.2 ∨ ∃ observer metric attributes value error,
        r' = (sent.2.measure observer r.contexts.size metric attributes value).closeSpan observer
          r.contexts.size attributes error) := by
  unfold attempt
  rw [openSpan_eq_opened]
  dsimp only
  generalize t r.contexts.size request (opened c request r) = sent
  obtain ⟨outcome, r'⟩ := sent
  cases outcome with
  | returned x => exact ⟨_, _, rfl, rfl, .inr ⟨_, _, _, _, _, rfl⟩⟩
  | panicked payload => exact ⟨_, _, rfl, rfl, .inl rfl⟩
  | hung => exact ⟨_, _, rfl, rfl, .inl rfl⟩

/-- An attempt comes out as its send, and what it does after the send is quiet. -/
theorem attempt_cases (d : Courier) (t : Transport σ) (c : ContextId) (request : OutboundRequest)
    (r : Realm σ) :
    ∃ r', d.attempt t c request r =
        ((t r.contexts.size request (opened c request r)).1, r') ∧
      Realm.Quiet (t r.contexts.size request (opened c request r)).2 r' := by
  obtain ⟨sent, r', rfl, he, h⟩ := d.attempt_shape t c request r
  refine ⟨r', he, ?_⟩
  obtain rfl | ⟨observer, metric, attributes, value, error, rfl⟩ := h
  · exact .refl _
  · exact (Realm.measure_quiet ..).trans (Realm.closeSpan_quiet ..)

theorem attempt_retains (ht : Transport.Retains t) (c : ContextId) (request : OutboundRequest)
    (r : Realm σ) : Realm.Retains r (d.attempt t c request r).2 := by
  obtain ⟨r', he, hq⟩ := d.attempt_cases t c request r
  rw [he]
  exact ((r.openSpan_quiet _ _ _).retains.trans (ht _ _ _)).trans hq.retains

/-- An attempt is made if the deadline has not come, and nothing is done after it. -/
theorem attemptBefore_cases (d : Courier) (deadline : Option Nat) (t : Transport σ)
    (c : ContextId) (request : OutboundRequest) (number : Nat) (r : Realm σ) :
    r.isLate deadline = true ∧ d.attemptBefore deadline t c request number r = (.hung, r) ∨
      r.isLate deadline = false ∧ d.attemptBefore deadline t c request number r =
        d.attempt (t.before deadline) c request (r.setLogValue c Key.attempt (.ofNat number)) := by
  unfold attemptBefore
  cases hlate : r.isLate deadline with
  | true => exact .inl ⟨rfl, rfl⟩
  | false => exact .inr ⟨rfl, rfl⟩

/-- Without a deadline an attempt is always made. -/
theorem attemptBefore_none (d : Courier) (t : Transport σ) (c : ContextId)
    (request : OutboundRequest) (number : Nat) (r : Realm σ) :
    d.attemptBefore none t c request number r =
      d.attempt t c request (r.setLogValue c Key.attempt (.ofNat number)) := rfl

/-- What holds of the realm and goes on to hold when the attempt is made holds after it, made or
not. -/
theorem attemptBefore_lift {P : Realm σ → Prop} {deadline : Option Nat} {c : ContextId}
    {request : OutboundRequest} {number : Nat} {r : Realm σ} (hr : P r)
    (hmade : P (d.attempt (t.before deadline) c request
      (r.setLogValue c Key.attempt (.ofNat number))).2) :
    P (d.attemptBefore deadline t c request number r).2 := by
  obtain ⟨-, he⟩ | ⟨-, he⟩ := d.attemptBefore_cases deadline t c request number r
  · rw [he]
    exact hr
  · rw [he]
    exact hmade

theorem attemptBefore_retains (ht : Transport.Retains t) (deadline : Option Nat) (c : ContextId)
    (request : OutboundRequest) (number : Nat) (r : Realm σ) :
    Realm.Retains r (d.attemptBefore deadline t c request number r).2 :=
  attemptBefore_lift (P := Realm.Retains r) (.refl r)
    ((r.setLogValue_quiet c Key.attempt _).retains.trans
      (attempt_retains (ht.before deadline) c request _))

/-- After an attempt a delivery ends unless its exchange is retryable, an attempt is left and the
wait is completed; it then goes on with the next attempt. -/
theorem attemptsFrom_cases (d : Courier) (deadline : Option Nat) (t : Transport σ)
    (c : ContextId) (request : OutboundRequest) (left number : Nat) (backoff : Duration)
    (r : Realm σ) :
    ∃ tried, tried = d.attemptBefore deadline t c request number r ∧
      ((∀ x, tried.1 = .returned x → x.isRetryable = false) ∧
          d.attemptsFrom deadline t c request left number backoff r = tried ∨
        ∃ x, tried.1 = .returned x ∧ x.isRetryable = true ∧
          (left = 0 ∧ d.attemptsFrom deadline t c request left number backoff r =
              (.returned x, logExhausted c request x tried.2) ∨
            ∃ left' delay backoff' waited, left = left' + 1 ∧
              (delay, backoff') = d.plan.nextDelay number backoff ∧
              waited = (logRetry c x delay tried.2).wait d.time c delay ∧
              (waited.1 = false ∧ d.attemptsFrom deadline t c request left number backoff r =
                  (.returned { x with error := some (.cancelled (.ofNat number)) },
                    waited.2.log c .info "retry cancelled" []) ∨
                waited.1 = true ∧ d.attemptsFrom deadline t c request left number backoff r =
                  d.attemptsFrom deadline t c request left' (number + 1) backoff' waited.2))) := by
  refine ⟨_, rfl, ?_⟩
  rw [attemptsFrom.eq_def]
  dsimp only
  generalize d.attemptBefore deadline t c request number r = tried
  obtain ⟨outcome, s⟩ := tried
  cases outcome with
  | returned x =>
    cases hx : x.isRetryable with
    | false =>
      refine .inl ⟨fun y hy => ?_, by simp [hx]⟩
      obtain rfl := Outcome.returned.inj hy
      exact hx
    | true =>
      refine .inr ⟨x, rfl, hx, ?_⟩
      cases left with
      | zero => exact .inl ⟨rfl, by simp [hx]⟩
      | succ left =>
        refine .inr ⟨left, (d.plan.nextDelay number backoff).1,
          (d.plan.nextDelay number backoff).2, _, rfl, rfl, rfl, ?_⟩
        simp only [hx, if_true]
        cases hw : Realm.wait (logRetry c x (d.plan.nextDelay number backoff).1 s) d.time c
            (d.plan.nextDelay number backoff).1 with
        | mk completed s' =>
          cases completed with
          | false => exact .inl ⟨rfl, rfl⟩
          | true => exact .inr ⟨rfl, rfl⟩
  | panicked payload => exact .inl ⟨by simp, rfl⟩
  | hung => exact .inl ⟨by simp, rfl⟩

theorem attemptsFrom_retains (ht : Transport.Retains t) (deadline : Option Nat) (c : ContextId)
    (request : OutboundRequest) (left number : Nat) (backoff : Duration) (r : Realm σ) :
    Realm.Retains r (d.attemptsFrom deadline t c request left number backoff r).2 := by
  induction left using Nat.strongRecOn generalizing number backoff r with
  | _ left ih =>
    obtain ⟨tried, htried, h⟩ := d.attemptsFrom_cases deadline t c request left number backoff r
    have ha : Realm.Retains r tried.2 := by
      rw [htried]
      exact attemptBefore_retains ht deadline c request number r
    obtain ⟨-, he⟩ | ⟨x, -, -, ⟨-, he⟩ | ⟨left', delay, backoff', waited, rfl, -, rfl, h⟩⟩ := h
    · rw [he]
      exact ha
    · rw [he]
      exact ha.trans (Realm.log_quiet _ _ _ _ _).retains
    · have hw := (ha.trans (Realm.log_quiet tried.2 c .debug "retrying request" _).retains).trans
        (Realm.wait_retains (logRetry c x delay tried.2) d.time c delay)
      obtain ⟨-, he⟩ | ⟨-, he⟩ := h
      · rw [he]
        exact hw.trans (Realm.log_quiet _ _ _ _ _).retains
      · rw [he]
        exact hw.trans (ih left' (Nat.lt_succ_self _) _ _ _)

/-- A delivery leaves the duplicate cache alone if its transport does. -/
theorem sendBefore_retains (ht : Transport.Retains t) (deadline : Option Nat) (c : ContextId)
    (request : OutboundRequest) (r : Realm σ) :
    Realm.Retains r (d.sendBefore deadline t c request r).2 := by
  unfold sendBefore
  split
  · exact attemptsFrom_retains ht deadline c request _ _ _ r
  · exact .refl r

end Courier

/-! ## The transports of this library -/

namespace Script

/-- A relation of realms that the faults of a script do not break: steps add up, and it lets pass
what touches neither contexts nor the duplicate cache, and what abandons contexts. -/
structure Bears (R : Realm Script → Realm Script → Prop) : Prop where
  trans : ∀ {r r' r''}, R r r' → R r' r'' → R r r''
  of_eq : ∀ {r r' : Realm Script}, r'.contexts = r.contexts → r'.checker = r.checker → R r r'
  cancel : ∀ r c, R r (r.cancel c)

variable {R : Realm Script → Realm Script → Prop}

theorem bears_strike (hR : Bears R) (fault : Fault) (span : ContextId) (r : Realm Script) :
    R r (strike fault span r).2 := by
  have hadvance : ∀ d, R r (r.advance d) := fun _ => hR.of_eq rfl rfl
  have hlog : ∀ (s : Realm Script) message, R s (s.log span .info message []) := by
    intro s message
    unfold Realm.log Realm.emit
    dsimp only
    split <;> exact hR.of_eq rfl rfl
  have hraise : ∀ (s : Realm Script) payload, R s (s.raise payload) := by
    intro s payload
    unfold Realm.raise
    dsimp only
    split <;> exact hR.of_eq rfl rfl
  have hact : ∀ (s : Realm Script) action, R r s →
      R r (strike ⟨fault.call, none, none, action⟩ span s).2 := by
    intro s action hs
    cases action with
    | none => exact hs
    | some action =>
      cases action with
      | cancel => exact hR.trans hs (hR.cancel _ _)
      | cancelSpan => exact hR.trans hs (hR.cancel _ _)
      | cancelInWait => exact hR.trans hs (hR.of_eq rfl rfl)
      | panic payload => exact hR.trans hs (hraise s payload)
      | hang => exact hs
  obtain ⟨call, advance, log, action⟩ := fault
  cases advance with
  | none =>
    cases log with
    | none => exact hact r action (hR.of_eq rfl rfl)
    | some message => exact hact _ action (hlog r message)
  | some d =>
    cases log with
    | none => exact hact _ action (hadvance d)
    | some message => exact hact _ action (hR.trans (hadvance d) (hlog _ message))

theorem bears_strikeAll (hR : Bears R) (span : ContextId) (faults : List Fault)
    (r : Realm Script) : R r (strikeAll span faults r).2 := by
  induction faults generalizing r with
  | nil => exact hR.of_eq rfl rfl
  | cons fault faults ih =>
    have h := bears_strike hR fault span r
    unfold strikeAll
    generalize strike fault span r = struck at h ⊢
    obtain ⟨outcome, s⟩ := struck
    cases outcome with
    | none => exact hR.trans h (ih s)
    | some outcome => exact h

/-- A send through the script. -/
theorem bears_send (hR : Bears R) (span : ContextId) (request : OutboundRequest)
    (r : Realm Script) : R r (send span request r).2 := by
  unfold send
  dsimp only
  have h := bears_strikeAll hR span
    (r.downstream.faults.filter (fun f => f.call.all (· == r.downstream.seen.size + 1)))
    { r with downstream :=
      { r.downstream with seen := r.downstream.seen.push ⟨request, r.context span⟩ } }
  generalize strikeAll span _ _ = struck at h ⊢
  obtain ⟨outcome, s⟩ := struck
  have hs : R r s := by
    refine hR.trans ?_ h
    exact hR.of_eq rfl rfl
  cases outcome with
  | none =>
    refine hR.trans hs ?_
    exact hR.of_eq rfl rfl
  | some outcome => exact hs

/-- What faults do to the work that sends leaves the cache alone. -/
theorem send_retains : Transport.Retains send :=
  bears_send ⟨Realm.Retains.trans, Realm.Retains.of_eq, Realm.cancel_retains⟩

end Script

theorem HttpClient.send_retains : Transport.Retains HttpClient.send := by
  intro span request r
  unfold HttpClient.send
  exact .of_eq rfl rfl

end EventRelay
