import EventRelay.Proofs.Delivery.Frame
import EventRelay.Proofs.Realm.Ballast
import EventRelay.Proofs.Realm.Observation

/-!
# Deliveries that stay with their own contexts

A transport is confined if it writes to the context of its send and to those that it makes, and
oblivious if what earlier work left behind does not matter to it. A delivery through a confined
transport leaves the contexts alone that were there before its own, and one through an oblivious
transport comes out the same however much was left behind, before a deadline that goes on with the
machine's timer.

* `Transport.Confined`, `Transport.Oblivious`: such transports.
* `Courier.sendBefore_untouched`, `Courier.sendBefore_matches`: deliveries through them.
* `Transport.Matches`: two transports of which one does with ballast what the other does without;
  `Matches.before`: so they do before a deadline.
* `Oblivious.noting`: notes that do not depend on what was left behind.
* `HttpClient.send_confined`, `HttpClient.send_oblivious`: the client of this library.
-/

namespace EventRelay

variable {σ β : Type}

namespace Transport

/-- A transport that leaves the first contexts alone whenever the context of its send is none of
them. -/
def Confined (t : Transport σ) : Prop :=
  ∀ (n : Nat) span request (r : Realm σ), n ≤ span → span < r.contexts.size → r.Closed n →
    Realm.Untouched n r (t span request r).2

/-- A transport that does the same where earlier work left contexts and records behind. -/
def Oblivious (t : Transport σ) : Prop :=
  ∀ b span request (r s : Realm σ), Realm.Laden b r s → b.first ≤ span →
    span < r.contexts.size → Realm.Matches b (t span request r) (t (b.place span) request s)

/-- What one transport does in a realm, another does in the one with ballast. -/
def Matches (b : Ballast) (t t' : Transport σ) : Prop :=
  ∀ span request (r s : Realm σ), Realm.Laden b r s → b.first ≤ span →
    span < r.contexts.size → Realm.Matches b (t span request r) (t' (b.place span) request s)

theorem Confined.before {t : Transport σ} (ht : Confined t) (deadline : Option Nat) :
    Confined (t.before deadline) := ht

theorem Matches.before {b : Ballast} {t t' : Transport σ} (ht : Matches b t t')
    (deadline : Option Nat) :
    Matches b (t.before deadline) (t'.before (deadline.map (· + b.lead))) := by
  intro span request r s h hspan hlt
  obtain ⟨hout, hsent⟩ := ht span request r s h hspan hlt
  refine ⟨?_, hsent⟩
  unfold Transport.before
  dsimp only
  rw [hsent.isLate_eq, hout]

variable {note : ContextId → OutboundRequest → Realm σ → Outcome Exchange × Realm σ → β}

/-- Notes are taken the same if none depends on what was left behind. -/
theorem Oblivious.noting {t : Transport σ} (ht : Oblivious t)
    (hnote : ∀ b span request (r s : Realm σ) sent sent', Realm.Laden b r s →
      Realm.Matches b sent sent' → note (b.place span) request s sent' = note span request r sent) :
    Oblivious (t.noting note) := by
  intro b span request r s h hspan hlt
  have hfst := h.mapDownstream Prod.fst
  obtain ⟨hout, hsent⟩ := ht b span request _ _ hfst hspan hlt
  have hsame := hnote b span request _ _ _ _ hfst ⟨hout, hsent⟩
  refine ⟨hout, ?_⟩
  unfold Transport.noting
  dsimp only
  rw [hsame, h.downstream_eq]
  exact hsent.mapDownstream _

end Transport

namespace Courier

variable {d : Courier} {deadline : Option Nat} {t t' : Transport σ} {n : Nat} {b : Ballast}
  {c : ContextId} {request : OutboundRequest} {r s : Realm σ}

theorem lt_size_opened (c : ContextId) (request : OutboundRequest) (r : Realm σ) :
    r.contexts.size < (opened c request r).contexts.size := by
  rw [opened, r.size_openSpan]
  exact Nat.lt_succ_self _

/-! ## Through a confined transport -/

theorem attempt_untouched (ht : Transport.Confined t) (c : ContextId) (request : OutboundRequest)
    (hn : n ≤ r.contexts.size) (hr : r.Closed n) :
    Realm.Untouched n r (d.attempt t c request r).2 := by
  have hopened : Realm.Untouched n r (opened c request r) := r.openSpan_untouched hn _ _ _
  have hsent := hopened.trans
    (ht n r.contexts.size request _ hn (lt_size_opened c request r) (hopened.closed hr))
  obtain ⟨sent, r', rfl, he, rfl | ⟨observer, metric, attributes, value, error, rfl⟩⟩ :=
    d.attempt_shape t c request r
  · rw [he]
    exact hsent
  · rw [he]
    exact (hsent.trans (Realm.measure_untouched ..)).trans (Realm.closeSpan_untouched ..)

theorem attemptBefore_untouched (ht : Transport.Confined t) (hc : n ≤ c)
    (request : OutboundRequest) (number : Nat) (hn : n ≤ r.contexts.size) (hr : r.Closed n) :
    Realm.Untouched n r (d.attemptBefore deadline t c request number r).2 := by
  have hset := r.setLogValue_untouched hc Key.attempt (.ofNat number)
  exact attemptBefore_lift (P := Realm.Untouched n r) (.refl r)
    (hset.trans (attempt_untouched (ht.before deadline) c request
      (Nat.le_trans hn hset.size_le) (hset.closed hr)))

theorem attemptsFrom_untouched (ht : Transport.Confined t) (hc : n ≤ c)
    (request : OutboundRequest) (left number : Nat) (backoff : Duration) (r : Realm σ)
    (hn : n ≤ r.contexts.size) (hr : r.Closed n) (hcalm : r.interrupts = []) :
    Realm.Untouched n r (d.attemptsFrom deadline t c request left number backoff r).2 := by
  induction left using Nat.strongRecOn generalizing number backoff r with
  | _ left ih =>
    obtain ⟨tried, htried, h⟩ := d.attemptsFrom_cases deadline t c request left number backoff r
    have ha : Realm.Untouched n r tried.2 := by
      rw [htried]
      exact attemptBefore_untouched ht hc request number hn hr
    obtain ⟨-, he⟩ | ⟨x, -, -, ⟨-, he⟩ | ⟨left', delay, backoff', waited, rfl, -, rfl, h⟩⟩ := h
    · rw [he]
      exact ha
    · rw [he]
      exact ha.trans (Realm.log_untouched ..)
    · have hlogged : Realm.Untouched n r (logRetry c x delay tried.2) :=
        ha.trans (Realm.log_untouched ..)
      have hw := hlogged.trans
        (Realm.wait_untouched (hlogged.interrupts_eq.trans hcalm) d.time c delay)
      obtain ⟨-, he⟩ | ⟨-, he⟩ := h
      · rw [he]
        exact hw.trans (Realm.log_untouched ..)
      · rw [he]
        exact hw.trans (ih left' (Nat.lt_succ_self _) _ _ _ (Nat.le_trans hn hw.size_le)
          (hw.closed hr) (hw.interrupts_eq.trans hcalm))

/-- A delivery under a later context leaves the first ones alone. -/
theorem sendBefore_untouched (ht : Transport.Confined t) (hc : n ≤ c) (request : OutboundRequest)
    (hn : n ≤ r.contexts.size) (hr : r.Closed n) (hcalm : r.interrupts = []) :
    Realm.Untouched n r (d.sendBefore deadline t c request r).2 := by
  unfold sendBefore
  split
  · exact attemptsFrom_untouched ht hc request _ _ _ r hn hr hcalm
  · exact .refl r

/-! ## Through an oblivious transport -/

theorem attempt_matches (ht : Transport.Matches b t t') (h : Realm.Laden b r s) (c : ContextId)
    (request : OutboundRequest) :
    Realm.Matches b (d.attempt t c request r) (d.attempt t' (b.place c) request s) := by
  have hopened : Realm.Laden b (opened c request r) (opened (b.place c) request s) :=
    (h.openSpan c SpanName.httpRequest [(AttributeName.httpUrl, request.url)]).2
  have hsent := ht r.contexts.size request _ _ hopened h.first_le (lt_size_opened c request r)
  unfold attempt
  rw [openSpan_eq_opened, openSpan_eq_opened, ← h.place_size]
  dsimp only
  rw [hopened.observerOf_eq, hopened.clock_eq]
  generalize t r.contexts.size request (opened c request r) = sent at hsent ⊢
  generalize t' (b.place r.contexts.size) request (opened (b.place c) request s) = sent' at hsent ⊢
  obtain ⟨outcome, r'⟩ := sent
  obtain ⟨outcome', s'⟩ := sent'
  obtain ⟨rfl, hafter⟩ := hsent
  cases outcome' with
  | returned x =>
    refine ⟨rfl, ?_⟩
    dsimp only
    rw [hafter.millisSince_eq]
    exact (hafter.measure _ _ _ _ _).closeSpan _ _ _ _
  | panicked payload => exact ⟨rfl, hafter⟩
  | hung => exact ⟨rfl, hafter⟩

theorem attemptBefore_matches (ht : Transport.Matches b t t') (h : Realm.Laden b r s)
    (c : ContextId) (request : OutboundRequest) (number : Nat) :
    Realm.Matches b (d.attemptBefore deadline t c request number r)
      (d.attemptBefore (deadline.map (· + b.lead)) t' (b.place c) request number s) := by
  unfold attemptBefore
  rw [h.isLate_eq]
  split
  · exact ⟨rfl, h⟩
  · exact attempt_matches (ht.before deadline) (h.setLogValue c Key.attempt (.ofNat number)) c
      request

theorem attemptsFrom_matches (ht : Transport.Matches b t t') (c : ContextId)
    (request : OutboundRequest) (left number : Nat) (backoff : Duration)
    (h : Realm.Laden b r s) :
    Realm.Matches b (d.attemptsFrom deadline t c request left number backoff r)
      (d.attemptsFrom (deadline.map (· + b.lead)) t' (b.place c) request left number backoff
        s) := by
  induction left using Nat.strongRecOn generalizing number backoff r s with
  | _ left ih =>
    rw [attemptsFrom.eq_def, attemptsFrom.eq_def d (deadline.map (· + b.lead)) t' (b.place c)
      request left number backoff s]
    have htried : Realm.Matches b (d.attemptBefore deadline t c request number r) _ :=
      attemptBefore_matches ht h c request number
    dsimp only
    generalize d.attemptBefore deadline t c request number r = tried at htried ⊢
    generalize d.attemptBefore _ t' (b.place c) request number s = tried' at htried ⊢
    obtain ⟨outcome, r'⟩ := tried
    obtain ⟨outcome', s'⟩ := tried'
    obtain ⟨rfl, hafter⟩ := htried
    cases outcome' with
    | returned x =>
      dsimp only
      cases x.isRetryable with
      | false => exact ⟨rfl, hafter⟩
      | true =>
        simp only [if_true]
        cases left with
        | zero => exact ⟨rfl, hafter.log _ _ _ _⟩
        | succ left =>
          dsimp only
          have hwaited := (show Realm.Laden b (logRetry c x (d.plan.nextDelay number backoff).1 r')
            (logRetry (b.place c) x (d.plan.nextDelay number backoff).1 s') from
              hafter.log _ _ _ _).wait d.time c (d.plan.nextDelay number backoff).1
          generalize Realm.wait (logRetry c x _ r') _ _ _ = waited at hwaited ⊢
          generalize Realm.wait (logRetry (b.place c) x _ s') _ _ _ = waited' at hwaited ⊢
          obtain ⟨completed, w⟩ := waited
          obtain ⟨completed', w'⟩ := waited'
          obtain ⟨rfl, hw⟩ := hwaited
          cases completed' with
          | false => exact ⟨rfl, hw.log _ _ _ _⟩
          | true => exact ih left (Nat.lt_succ_self _) _ _ hw
    | panicked payload => exact ⟨rfl, hafter⟩
    | hung => exact ⟨rfl, hafter⟩

/-- A delivery comes out the same however much was left behind, if its deadline goes on with the
machine's timer. -/
theorem sendBefore_matches (ht : Transport.Oblivious t) (h : Realm.Laden b r s) (c : ContextId)
    (request : OutboundRequest) :
    Realm.Matches b (d.sendBefore deadline t c request r)
      (d.sendBefore (deadline.map (· + b.lead)) t (b.place c) request s) := by
  have hknows : (s.context (b.place c)).hasTransport = (r.context c).hasTransport := by
    rw [h.context_eq]
    rfl
  unfold sendBefore
  rw [hknows]
  split
  · exact attemptsFrom_matches (ht b) c request _ _ _ h
  · exact ⟨rfl, h⟩

end Courier

/-! ## The client of this library -/

namespace HttpClient

theorem send_confined : Transport.Confined HttpClient.send := by
  intro n span request r _ _ _
  unfold HttpClient.send
  generalize HttpClient.perform request = performed
  exact .of_eq rfl rfl rfl

theorem send_oblivious : Transport.Oblivious HttpClient.send := by
  intro b span request r s h _ _
  unfold HttpClient.send
  generalize HttpClient.perform request = performed
  refine ⟨rfl, { h with downstream_eq := ?_ }⟩
  dsimp only
  rw [h.downstream_eq, h.id_eq]

end HttpClient
end EventRelay
