import Mathlib.Order.Bounds.Defs
import EventRelay.Proofs.Delivery.Passages

/-!
# A delivery keeps to its schedule

A delivery counts its attempts and carries a backoff along, while the schedule of its plan lists
all waits at once. This module shows that the two stay in step, whatever lies downstream answers.

* `Rounds`: the sends of a delivery from one attempt on, with the wait after each.
* `attemptsFrom_rounds`: the sends of a delivery through any transport that answers are rounds.
* `Rounds.getElem?_isAttempt`, `Rounds.getLast?_eq`, `Rounds.waits`: what rounds show at each place.
* `retry_follows_schedule`: how many sends there are, what each of them is, how long the waits
  between them are, and what comes out.
-/

namespace EventRelay

/-- A send of a request as the attempt of a number, which brought back an exchange. -/
structure Passage.IsAttempt (request : OutboundRequest) (number : Nat) (x : Exchange)
    (passage : Passage) : Prop where
  request_eq : passage.request = request
  number_eq : passage.context.logValue? Key.attempt = some (.ofNat number)
  outcome_eq : passage.outcome = .returned x

namespace Courier

/-- The sends from the attempt of a number on, with as many further ones left: the last one ends the
delivery, and after each other one the wait of the plan is kept among the sleeps. -/
inductive Rounds (p : RetryPlan) (request : OutboundRequest) :
    Nat → Nat → Duration → Array Duration → List Passage → Exchange → Array Duration → Prop
  | last {left number : Nat} {backoff : Duration} {passage : Passage} {x : Exchange} :
      passage.IsAttempt request number x → x.isRetryable = false ∨ left = 0 →
      Rounds p request left number backoff passage.before [passage] x passage.after
  | again {left number : Nat} {backoff : Duration} {passage : Passage} {x y : Exchange}
      {sends : List Passage} {rests : Array Duration} :
      passage.IsAttempt request number x → x.isRetryable = true →
      Rounds p request left (number + 1) (p.nextDelay number backoff).2
        (passage.after.push (p.nextDelay number backoff).1) sends y rests →
      Rounds p request (left + 1) number backoff passage.before (passage :: sends) y rests

variable {σ : Type} {d : Courier} {t : Transport σ} {c : ContextId} {request : OutboundRequest}

/-- What one turn of a delivery sends is the attempt of its number. -/
theorem attempt_isAttempt (hanswers : ∀ span q r, ∃ x, (t span q r).1 = .returned x)
    (hkeeps : ∀ span q r, r.contexts.size ≤ (t span q r).2.contexts.size) (number : Nat)
    {r : Realm (σ × List Passage)} (hc : c < r.contexts.size)
    {tried : Outcome Exchange × Realm (σ × List Passage)}
    (htried : tried = d.attempt (Transport.watched t) c request
      (r.setLogValue c Key.attempt (.ofNat number))) :
    ∃ passage x, tried.1 = .returned x ∧ passage.IsAttempt request number x ∧
      passage.before = r.rests ∧ passage.after = tried.2.rests ∧
      tried.2.downstream.2 = r.downstream.2 ++ [passage] ∧
      r.contexts.size ≤ tried.2.contexts.size := by
  have hset := r.setLogValue_quiet c Key.attempt (.ofNat number)
  obtain ⟨passage, hdown, hreq, hval, hbefore, hout, hafter, hsize⟩ :=
    attempt_passages d c request hkeeps (r.setLogValue c Key.attempt (.ofNat number))
  obtain ⟨r', he, -⟩ := d.attempt_cases (Transport.watched t) c request
    (r.setLogValue c Key.attempt (.ofNat number))
  obtain ⟨x, hx⟩ : ∃ x, tried.1 = .returned x := by
    rw [htried, he]
    exact hanswers _ _ _
  rw [← htried] at hdown hout hafter hsize
  refine ⟨passage, x, hx, ⟨hreq, ?_, hout.trans hx⟩, hbefore.trans hset.rests_eq, hafter, ?_,
    Nat.le_trans hset.size_le hsize⟩
  · rw [hval _ (by decide), Realm.setLogValue, Realm.context_update_self r hc]
    exact Context.logValue?_setLogValue _ _ _
  · rw [hdown, hset.downstream_eq]

/-- The sends of a delivery that is not abandoned are rounds. -/
theorem attemptsFrom_rounds (hanswers : ∀ span q r, ∃ x, (t span q r).1 = .returned x)
    (hkeeps : ∀ span q r, r.contexts.size ≤ (t span q r).2.contexts.size) (left number : Nat)
    (backoff : Duration) (r : Realm (σ × List Passage)) (hc : c < r.contexts.size)
    (hlive : (d.attemptsFrom none (Transport.watched t) c request left number backoff
      r).2.isCancelled c = false) :
    ∃ sends x,
      Rounds d.plan request left number backoff r.rests sends x
        (d.attemptsFrom none (Transport.watched t) c request left number backoff r).2.rests ∧
      (d.attemptsFrom none (Transport.watched t) c request left number backoff r).2.downstream.2 =
        r.downstream.2 ++ sends ∧
      (d.attemptsFrom none (Transport.watched t) c request left number backoff r).1 =
        .returned x := by
  induction left using Nat.strongRecOn generalizing number backoff r with
  | _ left ih =>
    obtain ⟨tried, htried, h⟩ :=
      d.attemptsFrom_cases none (Transport.watched t) c request left number backoff r
    rw [attemptBefore_none] at htried
    obtain ⟨passage, x, hx, hattempt, hbefore, hafter, hdown, hsize⟩ :=
      attempt_isAttempt hanswers hkeeps number hc htried
    obtain ⟨hend, he⟩ | ⟨x', hx', hretry, h⟩ := h
    · rw [he, ← hbefore, ← hafter]
      exact ⟨[passage], x, .last hattempt (.inl (hend x hx)), hdown, hx⟩
    · obtain rfl : x' = x := by
        rw [hx] at hx'
        exact (Outcome.returned.inj hx').symm
      obtain ⟨hleft, he⟩ | ⟨left', delay, backoff', waited, rfl, hdelay, rfl, h⟩ := h
      · have hlog := tried.2.log_quiet c .warn "retries exhausted"
          [("status", toString x'.status.toNat), ("url", request.url)]
        rw [he, ← hbefore]
        refine ⟨[passage], x', ?_, ?_, rfl⟩
        · rw [show (logExhausted c request x' tried.2).rests = passage.after from
            hlog.rests_eq.trans hafter.symm]
          exact .last hattempt (.inr hleft)
        · exact (congrArg Prod.snd hlog.downstream_eq).trans hdown
      · have hlog := tried.2.log_quiet c .debug "retrying request"
          [("status", toString x'.status.toNat), ("delay_ms", toString delay.wholeMillis),
            ("transient", if x'.error.all DeliveryFailure.isTransient then "true" else "false")]
        have hw := Realm.wait_retains (logRetry c x' delay tried.2) d.time c delay
        obtain ⟨hfalse, he⟩ | ⟨htrue, he⟩ := h
        · -- An abandoned wait would show in the end.
          rw [he, Realm.isCancelled, Realm.context_log] at hlive
          rw [← Realm.isCancelled, Realm.wait_abandoned hfalse] at hlive
          cases hlive
        · obtain ⟨hrests, hsame⟩ := Realm.wait_completed htrue
          have hlt := Nat.lt_of_lt_of_le hc
            (Nat.le_trans hsize (Nat.le_trans hlog.size_le hw.size_le))
          rw [he] at hlive ⊢
          obtain ⟨sends, y, hrounds, hdown', hy⟩ := ih left' (Nat.lt_succ_self _) _ _ _ hlt hlive
          have hback : backoff' = (d.plan.nextDelay number backoff).2 := congrArg Prod.snd hdelay
          have hwait : delay = (d.plan.nextDelay number backoff).1 := congrArg Prod.fst hdelay
          refine ⟨passage :: sends, y, ?_, ?_, hy⟩
          · rw [← hbefore]
            refine .again hattempt hretry ?_
            rwa [← hback, ← hwait, hafter, ← show (logRetry c x' delay tried.2).rests =
              tried.2.rests from hlog.rests_eq, ← hrests]
          · rw [hdown', hsame, show (logRetry c x' delay tried.2).downstream =
              tried.2.downstream from hlog.downstream_eq, hdown]
            exact List.append_assoc _ _ _

namespace Rounds

variable {p : RetryPlan} {left number : Nat} {backoff : Duration} {before after : Array Duration}
  {sends : List Passage} {y : Exchange}

/-- Each send is the next attempt, one of those left, and any but the last was worth another. -/
theorem getElem?_isAttempt (h : Rounds p request left number backoff before sends y after) {n : Nat}
    {passage : Passage} (hn : sends[n]? = some passage) :
    ∃ x, passage.IsAttempt request (number + n) x ∧ n ≤ left ∧
      (n + 1 < sends.length → x.isRetryable = true) := by
  induction h generalizing n with
  | @last left number backoff first x hfirst hend =>
    cases n with
    | zero =>
      obtain rfl := Option.some.inj hn
      exact ⟨x, hfirst, Nat.zero_le _, fun hlt => absurd hlt (by simp)⟩
    | succ n => cases hn
  | @again left number backoff first x y sends rests hfirst hretry _ ih =>
    cases n with
    | zero =>
      obtain rfl := Option.some.inj hn
      exact ⟨x, hfirst, Nat.zero_le _, fun _ => hretry⟩
    | succ n =>
      obtain ⟨z, hz, hle, hmore⟩ := ih hn
      refine ⟨z, ?_, Nat.succ_le_succ hle, fun hlt => hmore (Nat.lt_of_succ_lt_succ hlt)⟩
      rwa [Nat.add_right_comm, Nat.add_assoc] at hz

/-- There is a first send. -/
theorem head?_eq (h : Rounds p request left number backoff before sends y after) :
    ∃ passage, sends.head? = some passage ∧ passage.before = before := by
  cases h with
  | @last passage => exact ⟨_, rfl, rfl⟩
  | again => exact ⟨_, rfl, rfl⟩

/-- What the last send brought back comes out; either it is not worth another try or no attempt is
left. -/
theorem getLast?_eq (h : Rounds p request left number backoff before sends y after) :
    ∃ passage, sends.getLast? = some passage ∧ passage.outcome = .returned y ∧
      passage.after = after ∧ (y.isRetryable = false ∨ sends.length = left + 1) := by
  induction h with
  | last hlast hend => exact ⟨_, rfl, hlast.outcome_eq, rfl, hend.imp_right (by rintro rfl; rfl)⟩
  | @again left number backoff first x y sends rests _ _ hmore ih =>
    obtain ⟨passage, hlast, hout, hafter, hend⟩ := ih
    refine ⟨passage, ?_, hout, hafter, hend.imp_right fun hlen => by simp [hlen]⟩
    rw [List.getLast?_cons, hlast]
    rfl

/-- Between a send and the next there is one sleep, that of the schedule. -/
theorem waits (h : Rounds p request left number backoff before sends y after) {n : Nat}
    {passage next : Passage} (hn : sends[n]? = some passage) (hnext : sends[n + 1]? = some next) :
    ∃ delay, (p.waitsFrom left number backoff)[n]? = some delay ∧
      next.before = passage.after.push delay := by
  induction h generalizing n with
  | last => cases hnext
  | @again left number backoff first x y sends rests _ _ hmore ih =>
    cases n with
    | zero =>
      obtain rfl := Option.some.inj hn
      obtain ⟨second, hhead, hbefore⟩ := hmore.head?_eq
      have hnext : sends[0]? = some next := hnext
      rw [← List.head?_eq_getElem?, hhead] at hnext
      obtain rfl := Option.some.inj hnext
      exact ⟨_, rfl, hbefore⟩
    | succ n => exact ih hn hnext

/-- If no send sleeps, the sleeps of the delivery are the schedule up to its last send. -/
theorem rests_eq (h : Rounds p request left number backoff before sends y after)
    (hstill : ∀ passage ∈ sends, passage.after = passage.before) :
    after.toList =
      before.toList ++ (p.waitsFrom left number backoff).take (sends.length - 1) := by
  induction h with
  | last => simp [hstill _ List.mem_cons_self]
  | @again left number backoff first x y sends rests _ _ hmore ih =>
    have hpos : sends.length = sends.length - 1 + 1 := by
      obtain ⟨passage, hhead, -⟩ := hmore.head?_eq
      cases sends with
      | nil => cases hhead
      | cons => rfl
    rw [ih fun passage hp => hstill passage (List.mem_cons_of_mem _ hp), Array.toList_push,
      hstill first List.mem_cons_self, List.append_assoc, List.length_cons, Nat.add_sub_cancel,
      hpos]
    rfl

end Rounds

/-- **Schedule.** Whatever a transport answers, as long as it answers at all and loses no context, a
delivery that is not abandoned sends its request until an exchange is not worth another try or the
attempts of its plan are used up; the n-th send stands as attempt n, the wait after it is the n-th
of the schedule, and the last exchange comes out as it is. -/
theorem retry_follows_schedule (d : Courier) (t : Transport σ) (c : ContextId)
    (request : OutboundRequest) (r : Realm σ)
    (hanswers : ∀ span q r, ∃ x, (t span q r).1 = .returned x)
    (hkeeps : ∀ span q r, r.contexts.size ≤ (t span q r).2.contexts.size)
    (hc : c < r.contexts.size) (hlive : (d.retry t c request r).2.isCancelled c = false) :
    IsLeast {n | 1 ≤ n ∧ (n = max d.plan.maxAttempts.toNat 1 ∨
        ∃ passage x, (d.passages t c request r)[n - 1]? = some passage ∧
          passage.outcome = .returned x ∧ x.isRetryable = false)}
      (d.passages t c request r).length ∧
    (∃ passage x, (d.passages t c request r).getLast? = some passage ∧
      passage.outcome = .returned x ∧ (d.retry t c request r).1 = .returned x ∧
      passage.after = (d.retry t c request r).2.rests) ∧
    (∃ passage, (d.passages t c request r).head? = some passage ∧ passage.before = r.rests) ∧
    (∀ n passage, (d.passages t c request r)[n]? = some passage →
      passage.request = request ∧
      passage.context.logValue? Key.attempt = some (.ofNat (n + 1)) ∧
      n + 1 ≤ max d.plan.maxAttempts.toNat 1 ∧ n + 1 < UInt32.size) ∧
    (∀ n passage next, (d.passages t c request r)[n]? = some passage →
      (d.passages t c request r)[n + 1]? = some next →
      ∃ delay, d.plan.schedule[n]? = some delay ∧ next.before = passage.after.push delay) ∧
    ((∀ passage ∈ d.passages t c request r, passage.after = passage.before) →
      (d.retry t c request r).2.rests.toList =
        r.rests.toList ++ d.plan.schedule.take ((d.passages t c request r).length - 1)) := by
  have heq := watch_eq d t c request r
  rw [heq] at hlive ⊢
  obtain ⟨sends, y, hrounds, hdown, hy⟩ := attemptsFrom_rounds hanswers hkeeps
    (d.plan.attemptLimit - 1) 1 d.plan.initialBackoff (r.mapDownstream fun s => (s, [])) hc hlive
  have hsends : d.passages t c request r = sends := hdown
  have hlimit : d.plan.attemptLimit - 1 + 1 = max d.plan.maxAttempts.toNat 1 :=
    Nat.sub_add_cancel (Nat.le_max_right _ _)
  have hword : max d.plan.maxAttempts.toNat 1 < UInt32.size :=
    Nat.max_lt.2 ⟨d.plan.maxAttempts.toNat_lt_size, by decide⟩
  obtain ⟨last, hlast, hout, hafter, hend⟩ := hrounds.getLast?_eq
  have hplace : sends[sends.length - 1]? = some last := by
    rw [← List.getLast?_eq_getElem?]
    exact hlast
  have hpos : 1 ≤ sends.length := by
    obtain ⟨hlt, -⟩ := List.getElem?_eq_some_iff.1 hplace
    omega
  rw [hsends]
  refine ⟨⟨⟨hpos, ?_⟩, ?_⟩, ⟨last, y, hlast, hout, hy, hafter⟩, hrounds.head?_eq, ?_,
    fun n passage next => hrounds.waits, hrounds.rests_eq⟩
  · obtain hdone | hlen := hend
    · exact .inr ⟨last, y, hplace, hout, hdone⟩
    · exact .inl (hlen.trans hlimit)
  · rintro n ⟨hn, h⟩
    refine Nat.le_of_not_lt fun hlt => ?_
    obtain rfl | ⟨passage, x, hget, hx, hdone⟩ := h
    · obtain ⟨-, -, hle, -⟩ := hrounds.getElem?_isAttempt hplace
      omega
    · obtain ⟨x', hattempt, -, hmore⟩ := hrounds.getElem?_isAttempt hget
      have hretry := hmore (by omega)
      rw [hattempt.outcome_eq] at hx
      obtain rfl := Outcome.returned.inj hx
      rw [hdone] at hretry
      cases hretry
  · intro n passage hget
    obtain ⟨x, hattempt, hle, -⟩ := hrounds.getElem?_isAttempt hget
    have hbound : n + 1 ≤ max d.plan.maxAttempts.toNat 1 := by omega
    refine ⟨hattempt.request_eq, ?_, hbound, Nat.lt_of_le_of_lt hbound hword⟩
    rw [Nat.add_comm n 1]
    exact hattempt.number_eq

/-- The scripted transport without its faults. -/
def faultless : Transport Script := fun span request r =>
  Script.send span request { r with downstream := { r.downstream with faults := [] } }

/-- Five attempts, with waits of a tenth of a second, then of a fifth and twice as much each time,
and a pad of a twentieth. -/
def patient : Courier :=
  ⟨⟨5, .ofMillis 100, .ofMillis 200, .ofMillis 50, .exponential⟩, .shared⟩

/-- A realm with one context, where two answers to come are worth another try. -/
def unsteady : Realm Script :=
  ((Realm.start (.startingAt 0) (fun _ => 0) (fun _ => "") (.ofExchanges [.response 500 .empty,
    .failed (.network "reset"), .response 204 .empty] [])).addRoot .console).2

theorem retry_follows_schedule_unsteady :
    0 < unsteady.contexts.size ∧
      (patient.retry faultless 0 (.post "http://down.test/" .empty) unsteady).2.isCancelled 0 =
        false ∧
      (patient.passages faultless 0 (.post "http://down.test/" .empty) unsteady).length = 3 ∧
      (patient.retry faultless 0 (.post "http://down.test/" .empty) unsteady).2.rests.toList =
        [.ofMillis 100, .ofMillis 250] := by
  have hlive : (patient.retry faultless 0 (.post "http://down.test/" .empty)
      unsteady).2.isCancelled 0 = false := by decide +kernel
  have hlen : (patient.passages faultless 0 (.post "http://down.test/" .empty)
      unsteady).length = 3 := by decide +kernel
  obtain ⟨-, -, -, -, -, hrests⟩ := retry_follows_schedule patient faultless 0
    (.post "http://down.test/" .empty) unsteady (fun _ _ _ => ⟨_, rfl⟩)
    (fun _ _ _ => Nat.le_refl _) (by decide) hlive
  refine ⟨by decide, hlive, hlen, ?_⟩
  rw [hrests (by decide +kernel), hlen]
  decide +kernel

end Courier
end EventRelay
