import EventRelay.Proofs.Delivery.Watch
import EventRelay.Proofs.Realm.Outline

/-!
# Discreet transports

A transport is discreet if what it does depends on nothing but the calls made to it so far, the
correlation id of the context and the request: what stands in the bags of contexts, what was
recorded and what observers were told does not matter to it. A view of what lies downstream leaves
out what the transport keeps and never looks at. A delivery through such a transport is then
discreet as well.

* `Transport.Discreet`: such a transport.
* `discreet_of_history`: a transport that goes by the calls made to it is one.
* `Discreet.noting`: notes of calls are taken discreetly.
* `Courier.sendBefore_agree`: deliveries in alike realms come out alike.
* `Script.send_discreet`, `HttpClient.send_discreet`: the transports of this library are such ones.
-/

namespace EventRelay

variable {σ τ β : Type}

namespace Transport

/-- A transport that does the same in realms that are alike. -/
def Discreet (view : σ → τ) (t : Transport σ) : Prop :=
  ∀ span request (r r' : Realm σ), Realm.Alike view r r' →
    Realm.Agree view (t span request r) (t span request r')

/-- A transport that goes by the calls made to it, each an id and a request, and does nothing but
answer, is discreet. -/
theorem discreet_of_history {t : Transport σ} {history : σ → List (String × OutboundRequest)}
    {answer : List (String × OutboundRequest) → Outcome Exchange}
    (ht : ∀ span request r, ∃ s,
      t span request r = (answer (history s), { r with downstream := s }) ∧
        history s = history r.downstream ++ [((r.context span).id, request)]) :
    Discreet history t := by
  intro span request r r' h
  obtain ⟨s, he, hs⟩ := ht span request r
  obtain ⟨s', he', hs'⟩ := ht span request r'
  rw [h.view_eq, h.id_eq span, ← hs'] at hs
  rw [he, he']
  exact ⟨congrArg answer hs, h.withDownstream hs⟩

/-- With a deadline it is discreet as well, for deadlines come at the same time in alike realms. -/
theorem Discreet.before {view : σ → τ} {t : Transport σ} (ht : Discreet view t)
    (deadline : Option Nat) : Discreet view (t.before deadline) := by
  intro span request r r' h
  obtain ⟨hout, halike⟩ := ht span request r r' h
  refine ⟨?_, halike⟩
  unfold Transport.before
  dsimp only
  rw [hout, halike.isLate_eq]

/-- Notes that do not depend on bags, records and calls are taken discreetly. -/
theorem Discreet.noting {view : σ → τ} {t : Transport σ} (ht : Discreet view t)
    {note : ContextId → OutboundRequest → Realm σ → Outcome Exchange × Realm σ → β}
    (hnote : ∀ span request r r' sent sent', Realm.Alike view r r' →
      Realm.Agree view sent sent' →
      note span request r sent = note span request r' sent') :
    Discreet (Prod.map view id) (t.noting note) := by
  intro span request r r' h
  have hfst : Realm.Alike view (r.mapDownstream Prod.fst) (r'.mapDownstream Prod.fst) :=
    h.congr (Realm.mapDownstream Prod.fst)
  obtain ⟨hout, halike⟩ := ht span request _ _ hfst
  have hsame := hnote span request _ _ _ _ hfst ⟨hout, halike⟩
  have hnotes : r.downstream.2 = r'.downstream.2 := by
    have hsnd := congrArg Prod.snd h.view_eq
    exact hsnd
  refine ⟨hout, ?_⟩
  have hset : ∀ s : Realm (σ × List β),
      (t.noting note span request s).2.outline (Prod.map view id) =
        ((t span request (s.mapDownstream Prod.fst)).2.outline view).mapDownstream fun u =>
          (u, s.downstream.2 ++ [note span request (s.mapDownstream Prod.fst)
            (t span request (s.mapDownstream Prod.fst))]) := fun _ => rfl
  unfold Realm.Alike at halike ⊢
  rw [hset r, hset r', halike, hsame, hnotes]

end Transport

namespace Courier

variable {view : σ → τ} {d : Courier} {deadline : Option Nat} {t : Transport σ} {r r' : Realm σ}

theorem attempt_agree (ht : Transport.Discreet view t) (c : ContextId) (request : OutboundRequest)
    (h : Realm.Alike view r r') :
    Realm.Agree view (d.attempt t c request r) (d.attempt t c request r') := by
  have hshape : ∀ s : Realm σ, ∃ s', d.attempt t c request s =
      ((t s.contexts.size request (opened c request s)).1, s') ∧
        s'.outline view = (t s.contexts.size request (opened c request s)).2.outline view := by
    intro s
    obtain ⟨sent, s', rfl, he, rfl | ⟨observer, metric, attributes, value, error, rfl⟩⟩ :=
      d.attempt_shape t c request s
    · exact ⟨_, he, rfl⟩
    · exact ⟨_, he, by simp⟩
  obtain ⟨s, he, hs⟩ := hshape r
  obtain ⟨s', he', hs'⟩ := hshape r'
  have hopen : Realm.Alike view (opened c request r) (opened c request r') := (h.openSpan ..).2
  obtain ⟨hout, halike⟩ := ht r.contexts.size request _ _ hopen
  rw [h.size_eq] at hout halike hs he
  rw [he, he']
  exact ⟨hout, halike.of_outline_eq hs hs'⟩

theorem attemptBefore_agree (ht : Transport.Discreet view t) (c : ContextId)
    (request : OutboundRequest) (number : Nat) (h : Realm.Alike view r r') :
    Realm.Agree view (d.attemptBefore deadline t c request number r)
      (d.attemptBefore deadline t c request number r') := by
  have hnumbered : Realm.Alike view (r.setLogValue c Key.attempt (.ofNat number))
      (r'.setLogValue c Key.attempt (.ofNat number)) :=
    h.of_outline_eq (Realm.setLogValue_outline ..) (Realm.setLogValue_outline ..)
  unfold attemptBefore
  rw [h.isLate_eq]
  split
  · exact ⟨rfl, h⟩
  · exact attempt_agree (ht.before deadline) c request hnumbered

theorem attemptsFrom_agree (ht : Transport.Discreet view t) (c : ContextId)
    (request : OutboundRequest) (left number : Nat) (backoff : Duration)
    (h : Realm.Alike view r r') :
    Realm.Agree view (d.attemptsFrom deadline t c request left number backoff r)
      (d.attemptsFrom deadline t c request left number backoff r') := by
  induction left using Nat.strongRecOn generalizing number backoff r r' with
  | _ left ih =>
    rw [attemptsFrom.eq_def, attemptsFrom.eq_def d deadline t c request left number backoff r']
    have htried : Realm.Agree view (d.attemptBefore deadline t c request number r) _ :=
      attemptBefore_agree ht c request number h
    dsimp only
    generalize d.attemptBefore deadline t c request number r = tried at htried ⊢
    generalize d.attemptBefore deadline t c request number r' = tried' at htried ⊢
    obtain ⟨outcome, s⟩ := tried
    obtain ⟨outcome', s'⟩ := tried'
    obtain ⟨rfl, hs⟩ := htried
    cases outcome with
    | returned x =>
      dsimp only
      cases x.isRetryable with
      | false => exact ⟨rfl, hs⟩
      | true =>
        simp only [if_true]
        cases left with
        | zero => exact ⟨rfl, hs.of_outline_eq (Realm.log_outline ..) (Realm.log_outline ..)⟩
        | succ left =>
          dsimp only
          have hlogged : Realm.Alike view (logRetry c x (d.plan.nextDelay number backoff).1 s)
              (logRetry c x (d.plan.nextDelay number backoff).1 s') :=
            hs.of_outline_eq (Realm.log_outline ..) (Realm.log_outline ..)
          have hwaited := hlogged.wait d.time c (d.plan.nextDelay number backoff).1
          generalize Realm.wait (logRetry c x _ s) _ _ _ = waited at hwaited ⊢
          generalize Realm.wait (logRetry c x _ s') _ _ _ = waited' at hwaited ⊢
          obtain ⟨completed, w⟩ := waited
          obtain ⟨completed', w'⟩ := waited'
          obtain ⟨rfl, hw⟩ := hwaited
          cases completed with
          | false => exact ⟨rfl, hw.of_outline_eq (Realm.log_outline ..) (Realm.log_outline ..)⟩
          | true => exact ih left (Nat.lt_succ_self _) _ _ hw
    | panicked payload => exact ⟨rfl, hs⟩
    | hung => exact ⟨rfl, hs⟩

/-- Deliveries through a discreet transport come out alike in realms that are alike. -/
theorem sendBefore_agree (ht : Transport.Discreet view t) (c : ContextId)
    (request : OutboundRequest) (h : Realm.Alike view r r') :
    Realm.Agree view (d.sendBefore deadline t c request r)
      (d.sendBefore deadline t c request r') := by
  have hknows : (r.context c).hasTransport = (r'.context c).hasTransport := by
    rw [Context.hasTransport, Context.handle?, h.handles_eq c]
    rfl
  unfold sendBefore
  rw [hknows]
  split
  · exact attemptsFrom_agree ht c request _ _ _ h
  · exact ⟨rfl, h⟩

end Courier
/-! ## The transports of this library -/

namespace Script

/-- A script without the contexts that it saw, which it never looks at. -/
def blind (s : Script) : Script :=
  { s with seen := s.seen.map fun sighting => ⟨sighting.request, default⟩ }

variable {r r' : Realm Script}

theorem strike_agree (fault : Fault) (span : ContextId) (h : Realm.Alike blind r r') :
    Realm.Agree blind (strike fault span r) (strike fault span r') := by
  have hlog : ∀ {s s' : Realm Script} message, Realm.Alike blind s s' →
      Realm.Alike blind (s.log span .info message []) (s'.log span .info message []) :=
    fun message hs => hs.of_outline_eq (Realm.log_outline ..) (Realm.log_outline ..)
  have hadvance : ∀ d, Realm.Alike blind (r.advance d) (r'.advance d) :=
    fun d => h.congr fun s => s.advance d
  have hact : ∀ {s s' : Realm Script} action, Realm.Alike blind s s' →
      Realm.Agree blind (strike ⟨fault.call, none, none, action⟩ span s)
        (strike ⟨fault.call, none, none, action⟩ span s') := by
    intro s s' action hs
    have htarget : s.downstream.target = s'.downstream.target := by
      have ht := congrArg Script.target hs.view_eq
      exact ht
    cases action with
    | none => exact ⟨rfl, hs⟩
    | some action =>
      cases action with
      | cancel =>
        refine ⟨rfl, ?_⟩
        have hcancel := hs.cancel s'.downstream.target
        simp only [strike, htarget]
        exact hcancel
      | cancelSpan => exact ⟨rfl, hs.cancel span⟩
      | cancelInWait =>
        refine ⟨rfl, ?_⟩
        simp only [strike, htarget]
        exact hs.congr fun t =>
          { t with interrupts := t.interrupts ++ [s'.downstream.target] }
      | panic payload => exact ⟨rfl, hs.raise payload⟩
      | hang => exact ⟨rfl, hs⟩
  obtain ⟨call, advance, log, action⟩ := fault
  cases advance with
  | none =>
    cases log with
    | none => exact hact action h
    | some message => exact hact action (hlog message h)
  | some d =>
    cases log with
    | none => exact hact action (hadvance d)
    | some message => exact hact action (hlog message (hadvance d))

theorem strikeAll_agree (span : ContextId) (faults : List Fault) (h : Realm.Alike blind r r') :
    Realm.Agree blind (strikeAll span faults r) (strikeAll span faults r') := by
  induction faults generalizing r r' with
  | nil => exact ⟨rfl, h⟩
  | cons fault faults ih =>
    have hstruck := strike_agree fault span h
    unfold strikeAll
    generalize strike fault span r = struck at hstruck ⊢
    generalize strike fault span r' = struck' at hstruck ⊢
    obtain ⟨outcome, s⟩ := struck
    obtain ⟨outcome', s'⟩ := struck'
    obtain ⟨rfl, hs⟩ := hstruck
    cases outcome with
    | none => exact ih hs
    | some outcome => exact ⟨rfl, hs⟩

theorem send_discreet : Transport.Discreet blind send := by
  intro span request r r' h
  have hview := h.view_eq
  have hcalls : r.downstream.seen.size = r'.downstream.seen.size := by
    simpa [blind] using congrArg (fun s => s.seen.size) hview
  have hfaults : r.downstream.faults = r'.downstream.faults := by
    have hf := congrArg Script.faults hview
    exact hf
  have hseen : blind { r.downstream with
        seen := r.downstream.seen.push ⟨request, r.context span⟩ } =
      blind { r'.downstream with seen := r'.downstream.seen.push ⟨request, r'.context span⟩ } := by
    have hpush := congrArg (fun s : Script =>
      { s with seen := s.seen.push ⟨request, default⟩ }) hview
    simpa only [blind, Array.map_push] using hpush
  have hstruck := strikeAll_agree span
    (r'.downstream.faults.filter fun f => f.call.all (· == r'.downstream.seen.size + 1))
    (h.withDownstream hseen)
  unfold send
  dsimp only at hstruck ⊢
  rw [hcalls]
  rw [← hfaults] at hstruck ⊢
  generalize strikeAll span _ { r with downstream := _ } = struck at hstruck ⊢
  generalize strikeAll span _ { r' with downstream := _ } = struck' at hstruck ⊢
  obtain ⟨outcome, s⟩ := struck
  obtain ⟨outcome', s'⟩ := struck'
  obtain ⟨rfl, hs⟩ := hstruck
  cases outcome with
  | some outcome => exact ⟨rfl, hs⟩
  | none =>
    have hanswer : ∀ (id : String) (u : Script), (blind u).answer id request =
        ((u.answer id request).1, blind (u.answer id request).2) := by
      intro id u
      unfold answer blind
      dsimp only
      cases u.upcoming <;> rfl
    have hboth := congrArg (fun u : Script => u.answer (s'.context span).id request) hs.view_eq
    simp only [hanswer] at hboth
    have hid : (s.context span).id = (s'.context span).id := hs.id_eq span
    dsimp only
    rw [hid]
    obtain ⟨hx, hscript⟩ := Prod.mk.inj hboth
    exact ⟨congrArg Outcome.returned hx, hs.withDownstream hscript⟩

end Script

theorem HttpClient.send_discreet : Transport.Discreet id HttpClient.send := by
  intro span request r r' h
  unfold HttpClient.send
  refine ⟨rfl, h.withDownstream ?_⟩
  rw [h.id_eq span, show r.downstream = r'.downstream from h.view_eq]

end EventRelay
