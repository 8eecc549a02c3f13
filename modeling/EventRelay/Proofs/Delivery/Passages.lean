import EventRelay.Proofs.Delivery.Frame
import EventRelay.Proofs.Delivery.Watch

/-!
# The sends of a delivery

What a delivery sent does not show in its result, and what lies downstream may be anything. This
module puts a watch around a transport, which notes every send that passes and changes nothing, so
that one can speak of the sends of a delivery through any transport.

* `Passage`: what the watch notes of a send. `Transport.watched`: the transport with its watch.
* `Courier.passages`: the sends of a delivery, in their order.
* `watch_eq`: a watch changes neither the outcome of a delivery nor the realm.
* `attempt_passages`: an attempt is one send, under a context with the number of the attempt.
-/

namespace EventRelay

/-- A send: the request, the context under which it was made, the sleeps before and after it, and
how it came out. -/
structure Passage where
  request : OutboundRequest
  context : Context
  before : Array Duration
  outcome : Outcome Exchange
  after : Array Duration

/-- The transport with a watch that notes every send. -/
def Transport.watched {σ : Type} (t : Transport σ) : Transport (σ × List Passage) :=
  fun span request r =>
    let sent := t span request (r.mapDownstream Prod.fst)
    let passage := ⟨request, r.context span, r.rests, sent.1, sent.2.rests⟩
    (sent.1, sent.2.mapDownstream (fun s => (s, r.downstream.2 ++ [passage])))

namespace Courier

variable {σ : Type}

/-- The delivery with a watch around the transport. -/
def watch (d : Courier) (t : Transport σ) (c : ContextId) (request : OutboundRequest)
    (r : Realm σ) : Outcome Exchange × Realm (σ × List Passage) :=
  d.retry (Transport.watched t) c request (r.mapDownstream (fun s => (s, [])))

/-- The sends of a delivery, in their order. -/
def passages (d : Courier) (t : Transport σ) (c : ContextId) (request : OutboundRequest)
    (r : Realm σ) : List Passage :=
  (d.watch t c request r).2.downstream.2

variable {d : Courier} {t : Transport σ} {c : ContextId} {request : OutboundRequest}

/-! ## The watch changes nothing -/

/-- The delivery with a watch comes out as the one without, in the same realm. -/
theorem watch_eq (d : Courier) (t : Transport σ) (c : ContextId) (request : OutboundRequest)
    (r : Realm σ) : d.retry t c request r =
    ((d.watch t c request r).1, (d.watch t c request r).2.mapDownstream Prod.fst) :=
  retryBefore_noting (fun span request r sent =>
    (⟨request, r.context span, r.rests, sent.1, sent.2.rests⟩ : Passage)) d none t c request r

/-! ## One attempt -/

/-- An attempt is one send, under a context with the log values of the caller's but for the
correlation id; it makes no sleep of its own and loses no context. -/
theorem attempt_passages (d : Courier) (c : ContextId) (request : OutboundRequest)
    (hkeeps : ∀ span q r, r.contexts.size ≤ (t span q r).2.contexts.size)
    (r : Realm (σ × List Passage)) :
    ∃ passage : Passage,
      (d.attempt (Transport.watched t) c request r).2.downstream.2 =
        r.downstream.2 ++ [passage] ∧
      passage.request = request ∧
      (∀ name ≠ Key.traceId, passage.context.logValue? name = (r.context c).logValue? name) ∧
      passage.before = r.rests ∧
      passage.outcome = (d.attempt (Transport.watched t) c request r).1 ∧
      passage.after = (d.attempt (Transport.watched t) c request r).2.rests ∧
      r.contexts.size ≤ (d.attempt (Transport.watched t) c request r).2.contexts.size := by
  obtain ⟨r', he, hq⟩ := d.attempt_cases (Transport.watched t) c request r
  rw [he]
  have hopen := r.openSpan_quiet c SpanName.httpRequest [(AttributeName.httpUrl, request.url)]
  refine ⟨⟨request, (opened c request r).context r.contexts.size, (opened c request r).rests,
    (Transport.watched t r.contexts.size request (opened c request r)).1,
    (Transport.watched t r.contexts.size request (opened c request r)).2.rests⟩, ?_, rfl,
    fun name h => ?_, hopen.rests_eq, rfl, hq.rests_eq.symm, ?_⟩
  · rw [hq.downstream_eq]
    show (opened c request r).downstream.2 ++ _ = _
    rw [opened, hopen.downstream_eq]
    rfl
  · obtain ⟨-, fresh, values, hctx⟩ := r.context_openSpan c SpanName.httpRequest
      [(AttributeName.httpUrl, request.url)]
    show Context.logValue? name ((r.openSpan c _ _).2.context _) = _
    rw [hctx]
    exact Entries.find?_insert_of_ne h _ _
  · refine Nat.le_trans hopen.size_le (Nat.le_trans ?_ hq.size_le)
    exact hkeeps r.contexts.size request ((opened c request r).mapDownstream Prod.fst)

end Courier
end EventRelay
