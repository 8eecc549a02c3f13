import EventRelay.Proofs.Delivery.Frame
import EventRelay.Proofs.Delivery.Observation

/-!
# Watching the sends of a delivery

Whatever lies downstream, one may stand between it and the delivery and take notes of each send. The
notes are kept beside what lies downstream, where nobody else looks, so that the delivery does what
it does unwatched.

* `Courier.noted`: the notes of a delivery, in the order of its sends.
* `retryBefore_noting`: taking notes changes neither the outcome nor the realm.
* `sendBefore_notes`: every note of a delivery is of a send of its request.
-/

namespace EventRelay

namespace Courier

variable {σ β : Type}
  {note : ContextId → OutboundRequest → Realm σ → Outcome Exchange × Realm σ → β}
  {d : Courier} {deadline : Option Nat} {t : Transport σ} {c : ContextId}
  {request : OutboundRequest}

/-- The notes of a delivery, in the order of its sends. -/
def noted (note : ContextId → OutboundRequest → Realm σ → Outcome Exchange × Realm σ → β)
    (d : Courier) (deadline : Option Nat) (t : Transport σ) (c : ContextId)
    (request : OutboundRequest) (r : Realm σ) : List β :=
  (d.retryBefore deadline (t.noting note) c request
    (r.mapDownstream (fun s => (s, [])))).2.downstream.2

/-- A delivery of which notes are taken comes out as without, in the same realm. -/
theorem retryBefore_noting
    (note : ContextId → OutboundRequest → Realm σ → Outcome Exchange × Realm σ → β) (d : Courier)
    (deadline : Option Nat) (t : Transport σ) (c : ContextId) (request : OutboundRequest)
    (r : Realm σ) :
    d.retryBefore deadline t c request r =
      ((d.retryBefore deadline (t.noting note) c request
          (r.mapDownstream (fun s => (s, [])))).1,
        (d.retryBefore deadline (t.noting note) c request
          (r.mapDownstream (fun s => (s, [])))).2.mapDownstream Prod.fst) := by
  unfold retryBefore
  simp only [← Observation.own_attemptsFrom]
  exact Observation.attemptsFrom_commutes (Observation.own_commutes Prod.fst)
    ((t.noting_commutes note).before deadline) _ _ _ (r.mapDownstream (fun s => (s, [])))

/-! ## The notes -/

/-- Notes were added, each of a send of a request. -/
def Notes (note : ContextId → OutboundRequest → Realm σ → Outcome Exchange × Realm σ → β)
    (request : OutboundRequest) (before after : σ × List β) : Prop :=
  ∃ more, after.2 = before.2 ++ more ∧ ∀ x ∈ more, ∃ span r sent, x = note span request r sent

theorem Notes.of_eq {before after : σ × List β} (h : after = before) :
    Notes note request before after := ⟨[], by simp [h], by simp⟩

theorem Notes.trans {s s' s'' : σ × List β} (h : Notes note request s s')
    (h' : Notes note request s' s'') : Notes note request s s'' := by
  obtain ⟨more, he, hmore⟩ := h
  obtain ⟨more', he', hmore'⟩ := h'
  refine ⟨more ++ more', by rw [he', he, List.append_assoc], fun x hx => ?_⟩
  rcases List.mem_append.1 hx with hx | hx
  · exact hmore x hx
  · exact hmore' x hx

/-- An attempt takes one note. -/
theorem attempt_notes (d : Courier) (deadline : Option Nat) (t : Transport σ) (c : ContextId)
    (r : Realm (σ × List β)) :
    Notes note request r.downstream
      (d.attempt ((t.noting note).before deadline) c request r).2.downstream := by
  obtain ⟨r', he, hquiet⟩ := d.attempt_cases ((t.noting note).before deadline) c request r
  have hopen := r.openSpan_quiet c SpanName.httpRequest [(AttributeName.httpUrl, request.url)]
  rw [he]
  refine ⟨[note r.contexts.size request ((opened c request r).mapDownstream Prod.fst)
    (t r.contexts.size request ((opened c request r).mapDownstream Prod.fst))], ?_,
    fun x hx => ⟨_, _, _, List.mem_singleton.1 hx⟩⟩
  rw [hquiet.downstream_eq, ← hopen.downstream_eq]
  rfl

theorem attemptsFrom_notes (d : Courier) (deadline : Option Nat) (t : Transport σ) (c : ContextId)
    (left number : Nat) (backoff : Duration) (r : Realm (σ × List β)) :
    Notes note request r.downstream
      (d.attemptsFrom deadline (t.noting note) c request left number backoff r).2.downstream := by
  induction left using Nat.strongRecOn generalizing number backoff r with
  | _ left ih =>
    obtain ⟨tried, htried, h⟩ :=
      d.attemptsFrom_cases deadline (t.noting note) c request left number backoff r
    have ha : Notes note request r.downstream tried.2.downstream := by
      rw [htried]
      exact attemptBefore_lift (P := fun s => Notes note request r.downstream s.downstream)
        (.of_eq rfl) (attempt_notes d deadline t c (r.setLogValue c Key.attempt (.ofNat number)))
    obtain ⟨-, he⟩ | ⟨x, -, -, ⟨-, he⟩ | ⟨left', delay, backoff', waited, rfl, -, rfl, h⟩⟩ := h
    · rw [he]
      exact ha
    · rw [he]
      exact ha.trans (.of_eq (Realm.log_quiet _ _ _ _ _).downstream_eq)
    · have hlog := Realm.log_quiet tried.2 c .debug "retrying request"
        [("status", toString x.status.toNat), ("delay_ms", toString delay.wholeMillis),
          ("transient", if x.error.all DeliveryFailure.isTransient then "true" else "false")]
      have hw := ha.trans (.of_eq ((Realm.downstream_wait (logRetry c x delay tried.2) d.time c
        delay).trans hlog.downstream_eq))
      obtain ⟨-, he⟩ | ⟨-, he⟩ := h
      · rw [he]
        exact hw.trans (.of_eq (Realm.log_quiet _ _ _ _ _).downstream_eq)
      · rw [he]
        exact hw.trans (ih left' (Nat.lt_succ_self _) _ _ _)

/-- Every note of a delivery is of a send of its request. -/
theorem sendBefore_notes
    (note : ContextId → OutboundRequest → Realm σ → Outcome Exchange × Realm σ → β) (d : Courier)
    (deadline : Option Nat) (t : Transport σ) (c : ContextId) (request : OutboundRequest)
    (r : Realm (σ × List β)) :
    Notes note request r.downstream
      (d.sendBefore deadline (t.noting note) c request r).2.downstream := by
  unfold sendBefore
  split
  · exact attemptsFrom_notes d deadline t c _ _ _ r
  · exact .of_eq rfl

end Courier
end EventRelay
