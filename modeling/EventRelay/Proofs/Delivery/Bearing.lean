import EventRelay.Proofs.Delivery.Watch
import EventRelay.Proofs.Realm.Bearing

/-!
# A delivery under one id

A transport is faithful if it works under the id of the context that it is given: it changes no id
and logs through no other context. A delivery through such a transport from a context that bears an
id is work under that id.

* `Transport.Faithful`: such a transport. `Transport.SendsUnder`: the same of one request, with what
  lies downstream in view.
* `Courier.sendBefore_under`: the delivery.
* `Script.send_faithful`, `HttpClient.send_faithful`: the transports of this library are such ones.
-/

namespace EventRelay

variable {σ : Type}

namespace Transport

/-- A transport that works under the id of the context that it is given. -/
def Faithful (t : Transport σ) : Prop :=
  ∀ id ≠ "", ∀ span request (r : Realm σ), span < r.contexts.size → (r.context span).Bears id →
    Realm.Under id (fun _ => True) r (t span request r).2

/-- A transport that sends a request under an id and keeps a property of what lies downstream. -/
def SendsUnder (id : String) (P : σ → Prop) (request : OutboundRequest) (t : Transport σ) : Prop :=
  ∀ span (r : Realm σ), span < r.contexts.size → (r.context span).Bears id →
    Realm.Under id P r (t span request r).2

theorem SendsUnder.before {id : String} {P : σ → Prop} {request : OutboundRequest} {t : Transport σ}
    (ht : SendsUnder id P request t) (deadline : Option Nat) :
    SendsUnder id P request (t.before deadline) := ht

/-- A faithful transport of which notes are taken sends under the id, and each note is taken of a
send under it. -/
theorem Faithful.noting {β : Type} {t : Transport σ} (ht : Faithful t) {id : String}
    (hid : id ≠ "") {request : OutboundRequest} {Q : β → Prop}
    {note : ContextId → OutboundRequest → Realm σ → Outcome Exchange × Realm σ → β}
    (hnote : ∀ span r sent, (r.context span).Bears id → Q (note span request r sent)) :
    SendsUnder id (fun s => ∀ x ∈ s.2, Q x) request (t.noting note) := by
  intro span r hspan hb
  have hsent := ht id hid span request (r.mapDownstream Prod.fst) hspan hb
  refine ⟨hsent.size_le, hsent.keeps, hsent.bears, hsent.records, fun hp x hx => ?_⟩
  rcases List.mem_append.1 hx with hx | hx
  · exact hp x hx
  · obtain rfl := List.mem_singleton.1 hx
    exact hnote _ _ _ hb

end Transport

namespace Courier

variable {id : String} {P : σ → Prop} {d : Courier} {deadline : Option Nat} {t : Transport σ}
  {c : ContextId} {request : OutboundRequest}

theorem anonymous_exchangeAttributes (request : OutboundRequest) (x : Exchange) :
    Anonymous (exchangeAttributes request x) := by
  unfold exchangeAttributes
  cases x.error <;> simp [Anonymous, Key.traceId, AttributeName.httpUrl,
    AttributeName.httpStatusCode, AttributeName.errorType]

theorem attempt_under (hid : id ≠ "") (ht : Transport.SendsUnder id P request t) (r : Realm σ)
    (hc : (r.context c).Bears id) : Realm.Under id P r (d.attempt t c request r).2 := by
  have hplain : Anonymous [(AttributeName.httpUrl, request.url)] := by
    simp [Anonymous, Key.traceId, AttributeName.httpUrl]
  have hopen := r.openSpan_under (P := P) hc hid SpanName.httpRequest hplain
  have hspan := r.bears_openSpan hc hid SpanName.httpRequest [(AttributeName.httpUrl, request.url)]
  unfold attempt
  dsimp only
  rw [r.openSpan_fst]
  generalize (r.openSpan c SpanName.httpRequest [(AttributeName.httpUrl, request.url)]).2 = s
    at hopen hspan ⊢
  have hsent := ht r.contexts.size s hspan.1 hspan.2
  have hstill := hsent.still hspan
  generalize t r.contexts.size request s = sent at hsent hstill ⊢
  obtain ⟨outcome, s'⟩ := sent
  cases outcome with
  | returned x =>
    have hmeasured := s'.measure_under (P := P) (s.observerOf r.contexts.size) hstill.2
      MetricName.httpRequestDuration (anonymous_exchangeAttributes request x)
      (metricOf (s'.millisSince d.time s.clock.elapsed))
    refine ((hopen.trans hsent).trans hmeasured).trans (Realm.closeSpan_under _ _ ?_ ?_ _)
    · exact (hmeasured.still hstill).2
    · exact anonymous_exchangeAttributes request x
  | panicked payload => exact hopen.trans hsent
  | hung => exact hopen.trans hsent

theorem attemptsFrom_under (hid : id ≠ "") (ht : Transport.SendsUnder id P request t)
    (left number : Nat) (backoff : Duration) (r : Realm σ)
    (hc : c < r.contexts.size ∧ (r.context c).Bears id) :
    Realm.Under id P r (d.attemptsFrom deadline t c request left number backoff r).2 := by
  induction left using Nat.strongRecOn generalizing number backoff r with
  | _ left ih =>
    obtain ⟨tried, htried, h⟩ := d.attemptsFrom_cases deadline t c request left number backoff r
    have hnumbered : Realm.Under id P r (r.setLogValue c Key.attempt (.ofNat number)) :=
      r.setLogValue_under c (by decide) _
    have ha : Realm.Under id P r tried.2 := by
      rw [htried]
      exact attemptBefore_lift (P := Realm.Under id P r) (.refl r)
        (hnumbered.trans (attempt_under hid (ht.before deadline) _ (hnumbered.still hc).2))
    obtain ⟨-, he⟩ | ⟨x, -, -, ⟨-, he⟩ | ⟨left', delay, backoff', waited, rfl, -, rfl, h⟩⟩ := h
    · rw [he]
      exact ha
    · rw [he]
      exact ha.trans (tried.2.log_under (ha.still hc).2 _ _ (by simp [Anonymous, Key.traceId]))
    · have hlogged : Realm.Under id P tried.2 (logRetry c x delay tried.2) :=
        tried.2.log_under (ha.still hc).2 _ _ (by simp [Anonymous, Key.traceId])
      have hw := (ha.trans hlogged).trans
        ((logRetry c x delay tried.2).wait_under d.time c delay)
      obtain ⟨-, he⟩ | ⟨-, he⟩ := h
      · rw [he]
        exact hw.trans (Realm.log_under _ (hw.still hc).2 _ _ (by simp [Anonymous]))
      · rw [he]
        exact hw.trans (ih left' (Nat.lt_succ_self _) _ _ _ (hw.still hc))

/-- A delivery from a context that bears an id is work under that id. -/
theorem sendBefore_under (hid : id ≠ "") (ht : Transport.SendsUnder id P request t) (r : Realm σ)
    (hc : c < r.contexts.size ∧ (r.context c).Bears id) :
    Realm.Under id P r (d.sendBefore deadline t c request r).2 := by
  unfold sendBefore
  split
  · exact attemptsFrom_under hid ht _ _ _ r hc
  · exact .refl r

end Courier

/-! ## The transports of this library -/

namespace Script

variable {id : String} {P : Script → Prop}

theorem strike_under (fault : Fault) {span : ContextId} (r : Realm Script)
    (hspan : (r.context span).Bears id) :
    Realm.Under id (fun _ => True) r (strike fault span r).2 := by
  have hlog : ∀ (s : Realm Script) message, (s.context span).Bears id →
      Realm.Under id (fun _ => True) s (s.log span .info message []) :=
    fun s message hs => s.log_under hs _ _ (by simp [Anonymous])
  have hact : ∀ (s : Realm Script) action,
      Realm.Under id (fun _ => True) s (strike ⟨fault.call, none, none, action⟩ span s).2 := by
    intro s action
    cases action with
    | none => exact .refl s
    | some action =>
      cases action with
      | cancel => exact s.cancel_under _
      | cancelSpan => exact s.cancel_under _
      | cancelInWait => exact .of_eq rfl rfl rfl
      | panic payload => exact s.raise_under payload
      | hang => exact .refl s
  obtain ⟨call, advance, log, action⟩ := fault
  cases advance with
  | none =>
    cases log with
    | none => exact hact r action
    | some message => exact (hlog r message hspan).trans (hact _ action)
  | some d =>
    have hadvance : Realm.Under id (fun _ => True) r (r.advance d) := .of_eq rfl rfl rfl
    cases log with
    | none => exact hadvance.trans (hact _ action)
    | some message =>
      exact (hadvance.trans (hlog (r.advance d) message hspan)).trans (hact _ action)

theorem strikeAll_under (faults : List Fault) {span : ContextId} (r : Realm Script)
    (hspan : span < r.contexts.size ∧ (r.context span).Bears id) :
    Realm.Under id (fun _ => True) r (strikeAll span faults r).2 := by
  induction faults generalizing r with
  | nil => exact .refl r
  | cons fault faults ih =>
    have h := strike_under fault r hspan.2
    have hstill := h.still hspan
    unfold strikeAll
    generalize strike fault span r = struck at h hstill ⊢
    obtain ⟨outcome, s⟩ := struck
    cases outcome with
    | none => exact h.trans (ih s hstill)
    | some outcome => exact h

/-- Whatever faults strike, a send through the script is work under the id of its context. -/
theorem send_faithful : Transport.Faithful send := by
  intro id _ span request r hspan hb
  have hstruck := strikeAll_under
    (r.downstream.faults.filter fun f => f.call.all (· == r.downstream.seen.size + 1))
    { r with downstream :=
      { r.downstream with seen := r.downstream.seen.push ⟨request, r.context span⟩ } }
    ⟨hspan, hb⟩
  unfold send
  dsimp only at hstruck ⊢
  generalize strikeAll span _ _ = struck at hstruck ⊢
  obtain ⟨outcome, s⟩ := struck
  -- Neither the note of the sighting nor the answer touches contexts or records.
  have hs : Realm.Under id (fun _ => True) r s :=
    ⟨hstruck.size_le, hstruck.keeps, hstruck.bears, hstruck.records, hstruck.downstream⟩
  cases outcome with
  | some outcome => exact hs
  | none => exact ⟨hs.size_le, hs.keeps, hs.bears, hs.records, hs.downstream⟩

end Script

theorem HttpClient.send_faithful : Transport.Faithful HttpClient.send := by
  intro id _ span request r _ _
  have hsend : ∃ s, (HttpClient.send span request r).2 = { r with downstream := s } := by
    unfold HttpClient.send
    exact ⟨_, rfl⟩
  obtain ⟨s, he⟩ := hsend
  rw [he]
  exact ⟨Nat.le_refl _, fun _ _ hb => hb, fun c hlo hhi => absurd hhi (Nat.not_lt.2 hlo),
    ⟨[], (List.append_nil _).symm, by simp⟩, fun _ => trivial⟩

end EventRelay
