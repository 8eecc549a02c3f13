import EventRelay.Proofs.Delivery.Frame

/-!
# What a deadline does to a delivery

A deadline stops a delivery in a send or in a wait. Through a transport that does not turn the
machine's timer back, that is all it does: what is over before the deadline comes out as it would
without one, and everything else does not come to an end.

* `Transport.Onward`: such transports.
* `Outcome.CutOff`: work with a deadline, beside the same work without one.
* `Outcome.andThen`, `CutOff.andThen`: what follows on work that came to an end.
* `Courier.millis_attemptsFrom`: the timer does not go back in a delivery.
* `Courier.sendBefore_cutOff`: a delivery with a deadline is one without that is cut off.
-/

namespace EventRelay

variable {σ : Type}

/-- A transport that does not turn the machine's timer back. -/
def Transport.Onward (t : Transport σ) : Prop :=
  ∀ span request r, r.systemMillis ≤ (t span request r).2.systemMillis

theorem Transport.Onward.before {t : Transport σ} (ht : Transport.Onward t)
    (deadline : Option Nat) : Transport.Onward (t.before deadline) := ht

/-! ## Work that is cut off -/

namespace Outcome

variable {α β : Type}

/-- Work with a deadline, beside the same work without one: it does not come to an end exactly if
that does not, or not in time, and else it comes out the same. -/
structure CutOff (deadline : Nat) (x y : Outcome α × Realm σ) : Prop where
  hung_iff : x.1 = .hung ↔ y.1 = .hung ∨ deadline ≤ y.2.systemMillis
  eq_of_ne : x.1 ≠ .hung → x = y

/-- What follows on work that came to an end. -/
def andThen (x : Outcome α × Realm σ) (f : α → Realm σ → Outcome β × Realm σ) :
    Outcome β × Realm σ :=
  match x with
  | (.returned a, r) => f a r
  | (.panicked payload, r) => (.panicked payload, r)
  | (.hung, r) => (.hung, r)

namespace CutOff

variable {deadline : Nat} {x y : Outcome α × Realm σ}

/-- What is over in time is not cut off. -/
theorem of_inTime (h : y.2.systemMillis < deadline) : CutOff deadline y y := by
  refine ⟨⟨.inl, ?_⟩, fun _ => rfl⟩
  rintro (hhung | hlate)
  · exact hhung
  · omega

/-- What is not over in time does not come to an end. -/
theorem of_late (hx : x.1 = .hung) (hy : y.1 = .hung ∨ deadline ≤ y.2.systemMillis) :
    CutOff deadline x y :=
  ⟨iff_of_true hx hy, fun h => absurd hx h⟩

/-- Work that came to an end did so in time. -/
theorem inTime (h : CutOff deadline x y) (hx : x.1 ≠ .hung) : y.2.systemMillis < deadline := by
  have hnot := mt h.hung_iff.2 hx
  simp only [not_or, Nat.not_le] at hnot
  exact hnot.2

/-- What takes no time does not matter to a deadline. -/
theorem andThen (h : CutOff deadline x y) {f : α → Realm σ → Outcome β × Realm σ}
    (hf : ∀ a r, (f a r).2.systemMillis = r.systemMillis) :
    CutOff deadline (andThen x f) (andThen y f) := by
  by_cases hx : x.1 = .hung
  · have hy := h.hung_iff.1 hx
    rcases x with ⟨outcome, r⟩
    rcases y with ⟨outcome', s⟩
    obtain rfl : outcome = .hung := hx
    refine of_late rfl ?_
    cases outcome' with
    | returned a => exact .inr (by simpa [Outcome.andThen, hf] using hy)
    | panicked payload => simpa [Outcome.andThen] using hy
    | hung => exact .inl rfl
  · have htime := h.inTime hx
    obtain rfl := h.eq_of_ne hx
    refine of_inTime ?_
    rcases x with ⟨outcome, r⟩
    cases outcome with
    | returned a => simpa [Outcome.andThen, hf] using htime
    | panicked payload => exact htime
    | hung => exact htime

end CutOff
end Outcome

namespace Realm

/-- An abandonment takes no time. -/
theorem millis_interrupt (r : Realm σ) : r.interrupt.systemMillis = r.systemMillis := by
  have hfold : ∀ (cs : List ContextId) (s : Realm σ),
      (cs.foldl (fun s c => s.cancel c) s).systemMillis = s.systemMillis := by
    intro cs
    induction cs with
    | nil => exact fun s => rfl
    | cons c cs ih => exact fun s => ih (s.cancel c)
  exact hfold r.interrupts _

/-- The timer does not go back in a wait, and in one that is not completed it stands still. -/
theorem millis_wait (r : Realm σ) (source : TimeSource) (c : ContextId) (d : Duration) :
    r.systemMillis ≤ (r.wait source c d).2.systemMillis ∧
      ((r.wait source c d).1 = false →
        (r.wait source c d).2.systemMillis = r.systemMillis) := by
  obtain ⟨r', hr', h⟩ := r.wait_cases source c d
  have hkept : r'.systemMillis = r.systemMillis := by
    obtain rfl | rfl := hr'
    · rfl
    · exact r.millis_interrupt
  obtain ⟨-, hw⟩ | ⟨-, hw⟩ := h
  · rw [hw]
    exact ⟨Nat.le_of_eq hkept.symm, fun _ => hkept⟩
  · rw [hw]
    refine ⟨?_, fun h => by cases h⟩
    rw [← hkept]
    cases source with
    | shared => exact Nat.le_refl _
    | system => exact Nat.le_add_right _ _

end Realm

/-! ## Deliveries -/

namespace Courier

variable {t : Transport σ}

theorem millis_attemptBefore (d : Courier) (deadline : Option Nat) (ht : Transport.Onward t)
    (c : ContextId) (request : OutboundRequest) (number : Nat) (r : Realm σ) :
    r.systemMillis ≤ (d.attemptBefore deadline t c request number r).2.systemMillis := by
  refine attemptBefore_lift (P := fun s => r.systemMillis ≤ s.systemMillis) (Nat.le_refl _) ?_
  obtain ⟨r', he, hquiet⟩ := d.attempt_cases (t.before deadline) c request
    (r.setLogValue c Key.attempt (.ofNat number))
  have hopened : (opened c request (r.setLogValue c Key.attempt (.ofNat number))).systemMillis =
      r.systemMillis :=
    ((r.setLogValue_quiet _ _ _).trans (Realm.openSpan_quiet _ _ _ _)).millis_eq
  rw [he, hquiet.millis_eq, ← hopened]
  exact ht.before deadline _ _ _

/-- To log takes no time. -/
theorem millis_logRetry (c : ContextId) (x : Exchange) (delay : Duration) (r : Realm σ) :
    (logRetry c x delay r).systemMillis = r.systemMillis :=
  (Realm.log_quiet ..).millis_eq

/-- The timer does not go back after the first attempt of a delivery. -/
theorem millis_attemptsFrom (d : Courier) (deadline : Option Nat) (ht : Transport.Onward t)
    (c : ContextId) (request : OutboundRequest) (left number : Nat) (backoff : Duration)
    (r : Realm σ) :
    (d.attemptBefore deadline t c request number r).2.systemMillis ≤
      (d.attemptsFrom deadline t c request left number backoff r).2.systemMillis := by
  induction left using Nat.strongRecOn generalizing number backoff r with
  | _ left ih =>
    obtain ⟨tried, rfl, h⟩ := d.attemptsFrom_cases deadline t c request left number backoff r
    obtain ⟨-, he⟩ | ⟨x, -, -, ⟨-, he⟩ | ⟨left', delay, backoff', waited, rfl, -, rfl, h⟩⟩ := h
    · exact Nat.le_of_eq (congrArg (fun tried => tried.2.systemMillis) he.symm)
    · rw [he]
      exact Nat.le_of_eq (Realm.log_quiet _ _ _ _ _).millis_eq.symm
    · have hwaited := (Realm.millis_wait (logRetry c x delay
        (d.attemptBefore deadline t c request number r).2) d.time c delay).1
      rw [millis_logRetry] at hwaited
      obtain ⟨-, he⟩ | ⟨-, he⟩ := h
      · rw [he, (Realm.log_quiet _ _ _ _ _).millis_eq]
        exact hwaited
      · rw [he]
        have hnext := d.millis_attemptBefore deadline ht c request (number + 1)
          ((logRetry c x delay (d.attemptBefore deadline t c request number r).2).wait d.time c
            delay).2
        have hmore := ih left' (Nat.lt_succ_self _) (number + 1) backoff'
          ((logRetry c x delay (d.attemptBefore deadline t c request number r).2).wait d.time c
            delay).2
        omega

/-- An attempt knows its transport by one send. -/
theorem attempt_congr (d : Courier) {t' : Transport σ} {c : ContextId} {request : OutboundRequest}
    {r : Realm σ} (h : t r.contexts.size request (opened c request r) =
      t' r.contexts.size request (opened c request r)) :
    d.attempt t c request r = d.attempt t' c request r := by
  unfold attempt
  rw [openSpan_eq_opened]
  dsimp only
  rw [h]

theorem attempt_cutOff (d : Courier) (deadline : Nat) (t : Transport σ) (c : ContextId)
    (request : OutboundRequest) (r : Realm σ) :
    Outcome.CutOff deadline (d.attempt (t.before (some deadline)) c request r)
      (d.attempt t c request r) := by
  obtain ⟨cut, hcut, -⟩ := d.attempt_cases (t.before (some deadline)) c request r
  obtain ⟨whole, hwhole, hquiet⟩ := d.attempt_cases t c request r
  by_cases hlate : deadline ≤ (t r.contexts.size request (opened c request r)).2.systemMillis
  · refine .of_late ?_ (.inr ?_)
    · rw [hcut]
      exact if_pos (decide_eq_true hlate)
    · rw [hwhole, hquiet.millis_eq]
      exact hlate
  · have hsame : t.before (some deadline) r.contexts.size request (opened c request r) =
        t r.contexts.size request (opened c request r) :=
      Prod.ext (if_neg (by simpa [Realm.isLate] using hlate)) rfl
    rw [d.attempt_congr hsame]
    refine .of_inTime ?_
    rw [hwhole, hquiet.millis_eq]
    exact Nat.lt_of_not_le hlate

theorem attemptBefore_cutOff (d : Courier) (deadline : Nat) (ht : Transport.Onward t)
    (c : ContextId) (request : OutboundRequest) (number : Nat) (r : Realm σ) :
    Outcome.CutOff deadline (d.attemptBefore (some deadline) t c request number r)
      (d.attemptBefore none t c request number r) := by
  obtain ⟨hlate, he⟩ | ⟨-, he⟩ := d.attemptBefore_cases (some deadline) t c request number r
  · refine .of_late (congrArg Prod.fst he) (.inr ?_)
    have hle : deadline ≤ r.systemMillis := by simpa [Realm.isLate] using hlate
    exact Nat.le_trans hle (d.millis_attemptBefore none ht c request number r)
  · rw [he, attemptBefore_none]
    exact d.attempt_cutOff deadline t c request _

theorem attemptsFrom_cutOff (d : Courier) (deadline : Nat) (ht : Transport.Onward t)
    (c : ContextId) (request : OutboundRequest) (left number : Nat) (backoff : Duration)
    (r : Realm σ) :
    Outcome.CutOff deadline
      (d.attemptsFrom (some deadline) t c request left number backoff r)
      (d.attemptsFrom none t c request left number backoff r) := by
  induction left using Nat.strongRecOn generalizing number backoff r with
  | _ left ih =>
    have htried := d.attemptBefore_cutOff deadline ht c request number r
    by_cases hhung : (d.attemptBefore (some deadline) t c request number r).1 = .hung
    · have hlater := d.millis_attemptsFrom none ht c request left number backoff r
      obtain ⟨tried, rfl, ⟨-, he⟩ | ⟨x, hx, -⟩⟩ :=
        d.attemptsFrom_cases (some deadline) t c request left number backoff r
      · refine .of_late (he ▸ hhung) ?_
        obtain hnever | hlate := htried.hung_iff.1 hhung
        · obtain ⟨tried', rfl, ⟨-, he'⟩ | ⟨x, hx, -⟩⟩ :=
            d.attemptsFrom_cases none t c request left number backoff r
          · exact .inl (he' ▸ hnever)
          · rw [hx] at hnever
            cases hnever
        · exact .inr (Nat.le_trans hlate hlater)
      · rw [hx] at hhung
        cases hhung
    · -- The attempt is over in time, so from here on the two deliveries are in the same realm.
      have htime := htried.inTime hhung
      have hsame := htried.eq_of_ne hhung
      rw [attemptsFrom.eq_def, attemptsFrom.eq_def d none]
      dsimp only
      rw [hsame]
      generalize d.attemptBefore none t c request number r = tried at htime
      obtain ⟨outcome, s⟩ := tried
      cases outcome with
      | panicked payload => exact .of_inTime htime
      | hung => exact .of_inTime htime
      | returned x =>
        dsimp only
        cases x.isRetryable with
        | false => exact .of_inTime htime
        | true =>
          cases left with
          | zero => exact .of_inTime ((Realm.log_quiet s c _ _ _).millis_eq.symm ▸ htime)
          | succ left =>
            simp only [if_true]
            have hwait := (Realm.millis_wait (logRetry c x (d.plan.nextDelay number backoff).1 s)
              d.time c (d.plan.nextDelay number backoff).1).2
            generalize Realm.wait (logRetry c x (d.plan.nextDelay number backoff).1 s) d.time c
              (d.plan.nextDelay number backoff).1 = waited at hwait ⊢
            obtain ⟨completed, w⟩ := waited
            cases completed with
            | false =>
              refine .of_inTime ?_
              rw [(w.log_quiet _ _ _ _).millis_eq, hwait rfl, millis_logRetry]
              exact htime
            | true => exact ih left (Nat.lt_succ_self _) (number + 1) _ w

/-- **Deadlines.** A delivery that starts before its deadline comes out as it would without one if
it would be over in time, and else it does not come to an end. -/
theorem sendBefore_cutOff (d : Courier) (deadline : Nat) (ht : Transport.Onward t)
    (c : ContextId) (request : OutboundRequest) {r : Realm σ} (hr : r.systemMillis < deadline) :
    Outcome.CutOff deadline (d.sendBefore (some deadline) t c request r)
      (d.send t c request r) := by
  unfold send sendBefore
  split
  · exact d.attemptsFrom_cutOff deadline ht c request _ _ _ r
  · exact .of_inTime hr

end Courier

/-! ## The transports of this library -/

theorem HttpClient.send_onward : Transport.Onward HttpClient.send := by
  intro span request r
  unfold HttpClient.send
  generalize HttpClient.perform request = performed
  exact Nat.le_refl _

end EventRelay
