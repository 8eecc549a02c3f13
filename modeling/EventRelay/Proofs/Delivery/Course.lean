import EventRelay.Proofs.Delivery.Frame
import EventRelay.Proofs.Delivery.Watch
import EventRelay.Proofs.Realm.Abandonment

/-!
# The course of a delivery

A delivery goes from send to send, and the realm with it. This module follows it through any
transport: in which realm each send starts and ends, what stands between two sends, and in which
realm the delivery ends.

* `Transport.Ages`: a transport that takes no abandonment back.
* `Sending`: a send, with the realms before and after it. `Courier.sendings`,
  `Courier.sendingsBefore`: the sends of a delivery, in their order.
* `Trail`: a delivery from one attempt on, with every realm between its sends. `trail_retry`,
  `trail_retryBefore`: every delivery leaves such a trail.
* `Trail.getElem?_zero`, `Trail.next_eq`, `Trail.getLast?_cases`: the first send of a trail, what
  stands between two sends, and what follows the last one.
* `Sends`: a delivery with a first send, which comes out as it does by sends of its request.
  `sends_of_inTime`, `sends_of_returned`: so does each through a registered transport that starts in
  time or brings an exchange back.
* `Course`: a delivery as a trail, of whose realms no more is told than that they are calm.
  `course_retry`: every delivery takes such a course.
* `Course.fold_waits`: what only waits change is changed by the waits of the schedule, one for each
  send but the last.
-/

namespace EventRelay

/-- A transport that loses no context and takes no abandonment back. -/
def Transport.Ages {σ : Type} (t : Transport σ) : Prop :=
  ∀ span request r, Realm.Ages r (t span request r).2

/-- A send: the context under which it was made, what was sent, the realms before and after it, and
how it came out. -/
structure Sending (σ : Type) where
  span : ContextId
  request : OutboundRequest
  start : Realm σ
  outcome : Outcome Exchange
  finish : Realm σ

/-- A send through a transport as the attempt of a number, in a realm. -/
structure Sending.IsAttempt {σ : Type} (t : Transport σ) (c : ContextId)
    (request : OutboundRequest) (number : Nat) (r : Realm σ) (s : Sending σ) : Prop where
  request_eq : s.request = request
  start_eq : s.start = Courier.opened c request (r.setLogValue c Key.attempt (.ofNat number))
  sent_eq : t s.span s.request s.start = (s.outcome, s.finish)

namespace Sending.IsAttempt

variable {σ : Type} {t : Transport σ} {c : ContextId} {request : OutboundRequest} {number : Nat}
  {r : Realm σ} {s : Sending σ}

/-- Before a send its number is noted and its span is opened. -/
theorem start_quiet (h : s.IsAttempt t c request number r) : Realm.Quiet r s.start := by
  rw [h.start_eq]
  exact (r.setLogValue_quiet ..).trans (Realm.openSpan_quiet ..)

/-- The realm ages by a send if it does so by what the transport does. -/
theorem ages (h : s.IsAttempt t c request number r)
    (ht : Transport.Ages t) (hc : c < r.contexts.size) :
    Realm.Ages r s.finish := by
  have hnoted := (r.setLogValue_calm c Key.attempt (.ofNat number)).toAges
  have hstart : Realm.Ages r s.start := by
    rw [h.start_eq]
    exact hnoted.trans (Realm.openSpan_ages _ (Nat.lt_of_lt_of_le hc hnoted.size_le) _ _)
  have hsent := ht s.span s.request s.start
  rw [h.sent_eq] at hsent
  exact hstart.trans hsent

end Sending.IsAttempt

namespace Courier

variable {σ : Type}

/-- The sends of a delivery with a deadline, in their order. One that is done too late has no
result. -/
def sendingsBefore (d : Courier) (deadline : Option Nat) (t : Transport σ) (c : ContextId)
    (request : OutboundRequest) (r : Realm σ) : List (Sending σ) :=
  noted (fun span q before sent => ⟨span, q, before, sent.1, sent.2⟩) d deadline
    (t.before deadline) c request r

/-- The sends of a delivery, in their order. -/
def sendings (d : Courier) (t : Transport σ) (c : ContextId) (request : OutboundRequest)
    (r : Realm σ) : List (Sending σ) :=
  d.sendingsBefore none t c request r

/-- A delivery from the attempt of a number on, with as many further ones left: what it sends, how
it comes out, and the realm that it leaves. It ends with a send that is not worth another, or when
no attempt is left, or in a wait that is not completed; else it goes on after the wait. -/
inductive Course (d : Courier) (t : Transport σ) (c : ContextId) (request : OutboundRequest) :
    Nat → Nat → Duration → Realm σ → List (Sending σ) → Outcome Exchange → Realm σ → Prop
  | last {left number : Nat} {backoff : Duration} {r r' : Realm σ} {s : Sending σ} :
      s.IsAttempt t c request number r →
      (∀ x, s.outcome = .returned x → x.isRetryable = true → left = 0) →
      Realm.Calm s.finish r' →
      Course d t c request left number backoff r [s] s.outcome r'
  | abandoned {left number : Nat} {backoff delay : Duration} {r w r' : Realm σ} {s : Sending σ}
      {x : Exchange} :
      s.IsAttempt t c request number r → s.outcome = .returned x → x.isRetryable = true →
      Realm.Calm s.finish w → delay = (d.plan.nextDelay number backoff).1 →
      (w.wait d.time c delay).1 = false → Realm.Calm (w.wait d.time c delay).2 r' →
      Course d t c request (left + 1) number backoff r [s]
        (.returned { x with error := some (.cancelled (.ofNat number)) }) r'
  | again {left number : Nat} {backoff delay : Duration} {r w r' : Realm σ} {s : Sending σ}
      {x : Exchange} {sends : List (Sending σ)} {outcome : Outcome Exchange} :
      s.IsAttempt t c request number r → s.outcome = .returned x → x.isRetryable = true →
      Realm.Calm s.finish w → delay = (d.plan.nextDelay number backoff).1 →
      (w.wait d.time c delay).1 = true →
      Course d t c request left (number + 1) (d.plan.nextDelay number backoff).2
        (w.wait d.time c delay).2 sends outcome r' →
      Course d t c request (left + 1) number backoff r (s :: sends) outcome r'

/-! ## Every delivery leaves a trail -/

/-- The send of an attempt. -/
def sending (t : Transport σ) (c : ContextId) (request : OutboundRequest) (number : Nat)
    (r : Realm σ) : Sending σ :=
  let numbered := r.setLogValue c Key.attempt (.ofNat number)
  let start := opened c request numbered
  let sent := t numbered.contexts.size request start
  ⟨numbered.contexts.size, request, start, sent.1, sent.2⟩

theorem sending_isAttempt (t : Transport σ) (c : ContextId) (request : OutboundRequest)
    (number : Nat) (r : Realm σ) : (sending t c request number r).IsAttempt t c request number r :=
  ⟨rfl, rfl, rfl⟩

end Courier

/-- The realm in which the attempt of a send is over: an exchange is measured, and the span is
closed. -/
def Sending.closed {σ : Type} (d : Courier) (s : Sending σ) : Realm σ :=
  match s.outcome with
  | .returned x =>
    let observer := s.start.observerOf s.span
    let attributes := Courier.exchangeAttributes s.request x
    (s.finish.measure observer s.span MetricName.httpRequestDuration attributes (Courier.metricOf
      (s.finish.millisSince d.time s.start.clock.elapsed))).closeSpan observer s.span attributes
        (x.error.map DeliveryFailure.message)
  | _ => s.finish

theorem Sending.closed_calm {σ : Type} (d : Courier) (s : Sending σ) :
    Realm.Calm s.finish (s.closed d) := by
  unfold Sending.closed
  split
  · exact (Realm.measure_calm ..).trans (Realm.closeSpan_calm ..)
  · exact .refl _

namespace Courier

variable {σ : Type}

/-- An attempt is one send, after which its span is closed. -/
theorem attempt_eq (d : Courier) (t : Transport σ) (c : ContextId) (request : OutboundRequest)
    (number : Nat) (r : Realm σ) :
    d.attempt t c request (r.setLogValue c Key.attempt (.ofNat number)) =
      ((sending t c request number r).outcome, (sending t c request number r).closed d) := by
  unfold attempt sending Sending.closed
  rw [openSpan_eq_opened]
  dsimp only
  generalize t _ request _ = sent
  obtain ⟨outcome, r'⟩ := sent
  cases outcome <;> rfl

/-- A delivery from the attempt of a number on, with as many further ones left: what it sends, how
it comes out, and the realm that it leaves. It ends with a send that is not worth another, or when
no attempt is left, or in a wait that is not completed or over too late; else it goes on after the
wait. -/
inductive Trail (d : Courier) (deadline : Option Nat) (t : Transport σ) (c : ContextId)
    (request : OutboundRequest) :
    Nat → Nat → Duration → Realm σ → List (Sending σ) → Outcome Exchange → Realm σ → Prop
  | last {left number : Nat} {backoff : Duration} {r : Realm σ} {s : Sending σ} :
      s = sending t c request number r → (∀ x, s.outcome = .returned x → x.isRetryable = false) →
      Trail d deadline t c request left number backoff r [s] s.outcome (s.closed d)
  | exhausted {number : Nat} {backoff : Duration} {r : Realm σ} {s : Sending σ} {x : Exchange} :
      s = sending t c request number r → s.outcome = .returned x → x.isRetryable = true →
      Trail d deadline t c request 0 number backoff r [s] (.returned x)
        (logExhausted c request x (s.closed d))
  | overdue {left number : Nat} {backoff delay : Duration} {r : Realm σ} {w : Bool × Realm σ}
      {s : Sending σ} {x : Exchange} :
      s = sending t c request number r → s.outcome = .returned x → x.isRetryable = true →
      delay = (d.plan.nextDelay number backoff).1 →
      w = (logRetry c x delay (s.closed d)).wait d.time c delay → w.1 = true →
      w.2.isLate deadline = true →
      Trail d deadline t c request (left + 1) number backoff r [s] .hung w.2
  | abandoned {left number : Nat} {backoff delay : Duration} {r : Realm σ} {w : Bool × Realm σ}
      {s : Sending σ} {x : Exchange} :
      s = sending t c request number r → s.outcome = .returned x → x.isRetryable = true →
      delay = (d.plan.nextDelay number backoff).1 →
      w = (logRetry c x delay (s.closed d)).wait d.time c delay → w.1 = false →
      Trail d deadline t c request (left + 1) number backoff r [s]
        (.returned { x with error := some (.cancelled (.ofNat number)) })
        (w.2.log c .info "retry cancelled" [])
  | again {left number : Nat} {backoff delay : Duration} {r r' : Realm σ} {w : Bool × Realm σ}
      {s : Sending σ} {x : Exchange} {sends : List (Sending σ)} {outcome : Outcome Exchange} :
      s = sending t c request number r → s.outcome = .returned x → x.isRetryable = true →
      delay = (d.plan.nextDelay number backoff).1 →
      w = (logRetry c x delay (s.closed d)).wait d.time c delay → w.1 = true →
      Trail d deadline t c request left (number + 1) (d.plan.nextDelay number backoff).2 w.2 sends
        outcome r' →
      Trail d deadline t c request (left + 1) number backoff r (s :: sends) outcome r'

variable {d : Courier} {deadline : Option Nat} {t : Transport σ} {c : ContextId}
  {request : OutboundRequest}

/-- What is noted of the sends. -/
abbrev noting (t : Transport σ) : Transport (σ × List (Sending σ)) :=
  t.noting fun span q before sent => ⟨span, q, before, sent.1, sent.2⟩

/-- Under notes an attempt is the send that it is without, and the send is noted. -/
theorem attempt_noting (d : Courier) (t : Transport σ) (c : ContextId) (request : OutboundRequest)
    (number : Nat) (r : Realm (σ × List (Sending σ)))
    {tried : Outcome Exchange × Realm (σ × List (Sending σ))}
    (htried : tried =
      d.attempt (noting t) c request (r.setLogValue c Key.attempt (.ofNat number))) :
    ∃ s : Sending σ, s = sending t c request number (r.mapDownstream Prod.fst) ∧
      s.outcome = tried.1 ∧ s.closed d = tried.2.mapDownstream Prod.fst ∧
      tried.2.downstream.2 = r.downstream.2 ++ [s] := by
  refine ⟨_, rfl, ?_⟩
  have hplain : d.attempt t c request
        ((r.setLogValue c Key.attempt (.ofNat number)).mapDownstream Prod.fst) =
      (tried.1, tried.2.mapDownstream Prod.fst) := by
    simp only [htried, ← Observation.own_attempt]
    exact Observation.attempt_commutes (Observation.own_commutes Prod.fst) (t.noting_commutes _) _
  rw [← Realm.setLogValue_mapDownstream, attempt_eq] at hplain
  obtain ⟨hout, hclosed⟩ := Prod.mk.inj hplain
  refine ⟨hout, hclosed, ?_⟩
  have hopen := (r.setLogValue_quiet c Key.attempt (.ofNat number)).trans
    (Realm.openSpan_quiet _ c SpanName.httpRequest [(AttributeName.httpUrl, request.url)])
  have hview : (opened c request (r.setLogValue c Key.attempt (.ofNat number))).mapDownstream
      Prod.fst = opened c request
        ((r.mapDownstream Prod.fst).setLogValue c Key.attempt (.ofNat number)) := by
    rw [opened, opened, Realm.setLogValue_mapDownstream, Realm.openSpan_mapDownstream]
  rw [htried, attempt_eq, (Sending.closed_calm d _).downstream_eq, ← hopen.downstream_eq]
  simp only [sending, ← hview]
  rfl

/-- Under notes an attempt that is in time is the send that it is without, cut off if it is done too
late. -/
theorem attemptBefore_noting (d : Courier) (deadline : Option Nat) (t : Transport σ)
    (c : ContextId) (request : OutboundRequest) (number : Nat) (r : Realm (σ × List (Sending σ)))
    (hr : r.isLate deadline = false) :
    d.attemptBefore deadline (noting (t.before deadline)) c request number r =
      d.attempt (noting (t.before deadline)) c request
        (r.setLogValue c Key.attempt (.ofNat number)) := by
  obtain ⟨hlate, -⟩ | ⟨-, he⟩ :=
    d.attemptBefore_cases deadline (noting (t.before deadline)) c request number r
  · rw [hr] at hlate
    cases hlate
  · rw [he, Transport.noting_before]

/-- Too late for its first attempt a delivery does nothing. -/
theorem attemptsFrom_of_late (d : Courier) (t : Transport σ) (c : ContextId)
    (request : OutboundRequest) (left number : Nat) (backoff : Duration) {r : Realm σ}
    (hr : r.isLate deadline = true) :
    d.attemptsFrom deadline t c request left number backoff r = (.hung, r) := by
  rw [attemptsFrom.eq_def]
  dsimp only
  rw [attemptBefore, if_pos hr]

/-- From one attempt on, a delivery that is in time leaves a trail. -/
theorem trail_attemptsFrom (d : Courier) (deadline : Option Nat) (t : Transport σ) (c : ContextId)
    (request : OutboundRequest) (left number : Nat) (backoff : Duration)
    (r : Realm (σ × List (Sending σ))) (hr : r.isLate deadline = false) :
    ∃ sends, Trail d deadline (t.before deadline) c request left number backoff
        (r.mapDownstream Prod.fst) sends
        (d.attemptsFrom deadline (noting (t.before deadline)) c request left number backoff r).1
        ((d.attemptsFrom deadline (noting (t.before deadline)) c request left number backoff
          r).2.mapDownstream Prod.fst) ∧
      (d.attemptsFrom deadline (noting (t.before deadline)) c request left number backoff
        r).2.downstream.2 = r.downstream.2 ++ sends := by
  induction left using Nat.strongRecOn generalizing number backoff r with
  | _ left ih =>
    obtain ⟨tried, htried, h⟩ := d.attemptsFrom_cases deadline (noting (t.before deadline)) c
      request left number backoff r
    rw [attemptBefore_noting d deadline t c request number r hr] at htried
    obtain ⟨s, hs, hout, hclosed, hnoted⟩ :=
      attempt_noting d (t.before deadline) c request number r htried
    obtain ⟨hend, he⟩ | ⟨x, hx, hretry, h⟩ := h
    · rw [he]
      refine ⟨[s], ?_, hnoted⟩
      rw [← hout, ← hclosed]
      exact .last hs fun x hx => hend x (hout ▸ hx)
    · obtain ⟨rfl, he⟩ | ⟨left', delay, backoff', waited, rfl, hdelay, rfl, h⟩ := h
      · rw [he]
        refine ⟨[s], ?_, (congrArg Prod.snd (Realm.log_quiet ..).downstream_eq).trans hnoted⟩
        have hlog : (logExhausted c request x tried.2).mapDownstream Prod.fst =
            logExhausted c request x (s.closed d) := by
          rw [hclosed]
          exact (Realm.log_mapDownstream ..).symm
        rw [hlog]
        exact .exhausted hs (hout.trans hx) hretry
      · have hback : backoff' = (d.plan.nextDelay number backoff).2 := congrArg Prod.snd hdelay
        have hwait : delay = (d.plan.nextDelay number backoff).1 := congrArg Prod.fst hdelay
        obtain ⟨w, hw⟩ : ∃ w, w = (logRetry c x delay (s.closed d)).wait d.time c delay := ⟨_, rfl⟩
        have hview : w = (((logRetry c x delay tried.2).wait d.time c delay).1,
            ((logRetry c x delay tried.2).wait d.time c delay).2.mapDownstream Prod.fst) := by
          rw [hw, hclosed, ← Realm.wait_mapDownstream]
          exact congrArg (Realm.wait · d.time c delay) (Realm.log_mapDownstream ..)
        obtain ⟨hdone, hwaited⟩ := Prod.mk.inj hview
        have hkept : ((logRetry c x delay tried.2).wait d.time c delay).2.downstream.2 =
            r.downstream.2 ++ [s] := by
          rw [Realm.downstream_wait]
          exact (congrArg Prod.snd (Realm.log_quiet ..).downstream_eq).trans hnoted
        obtain ⟨hfalse, he⟩ | ⟨htrue, he⟩ := h
        · rw [he]
          refine ⟨[s], ?_, (congrArg Prod.snd (Realm.log_quiet ..).downstream_eq).trans hkept⟩
          rw [← Realm.log_mapDownstream, ← hwaited]
          exact .abandoned hs (hout.trans hx) hretry hwait hw (hdone.trans hfalse)
        · rw [he]
          cases hlate :
              ((logRetry c x delay tried.2).wait d.time c delay).2.isLate deadline with
          | true =>
            rw [attemptsFrom_of_late d _ c request left' _ _ hlate]
            refine ⟨[s], ?_, hkept⟩
            dsimp only
            rw [← hwaited]
            refine .overdue hs (hout.trans hx) hretry hwait hw (hdone.trans htrue) ?_
            rw [hwaited]
            exact hlate
          | false =>
            obtain ⟨sends, htrail, hmore⟩ := ih left' (Nat.lt_succ_self _) (number + 1) backoff'
              ((logRetry c x delay tried.2).wait d.time c delay).2 hlate
            refine ⟨s :: sends, .again hs (hout.trans hx) hretry hwait hw (hdone.trans htrue) ?_,
              ?_⟩
            · rw [hwaited, ← hback]
              exact htrail
            · rw [hmore, hkept]
              exact List.append_assoc _ _ _

/-- A delivery that starts in time leaves a trail. -/
theorem trail_retryBefore (d : Courier) (deadline : Option Nat) (t : Transport σ) (c : ContextId)
    (request : OutboundRequest) (r : Realm σ) (hr : r.isLate deadline = false) :
    Trail d deadline (t.before deadline) c request (d.plan.attemptLimit - 1) 1
      d.plan.initialBackoff r (d.sendingsBefore deadline t c request r)
      (d.retryBefore deadline t c request r).1 (d.retryBefore deadline t c request r).2 := by
  obtain ⟨sends, htrail, hnoted⟩ := trail_attemptsFrom d deadline t c request
    (d.plan.attemptLimit - 1) 1 d.plan.initialBackoff (r.mapDownstream (fun s => (s, []))) hr
  have hsends : d.sendingsBefore deadline t c request r = sends := hnoted
  have hcommutes : ((noting (t.before deadline)).before deadline).Commutes Prod.fst
      (t.before deadline) := by
    rw [Transport.noting_before]
    exact (t.before deadline).noting_commutes _
  have hplain : d.retryBefore deadline t c request r =
      ((d.retryBefore deadline (noting (t.before deadline)) c request
          (r.mapDownstream (fun s => (s, [])))).1,
        (d.retryBefore deadline (noting (t.before deadline)) c request
          (r.mapDownstream (fun s => (s, [])))).2.mapDownstream Prod.fst) := by
    unfold retryBefore
    simp only [← Observation.own_attemptsFrom]
    exact Observation.attemptsFrom_commutes (Observation.own_commutes Prod.fst) hcommutes _ _ _
      (r.mapDownstream (fun s => (s, [])))
  rw [hsends, hplain]
  exact htrail

/-- **Every delivery leaves a trail.** -/
theorem trail_retry (d : Courier) (t : Transport σ) (c : ContextId) (request : OutboundRequest)
    (r : Realm σ) :
    Trail d none t c request (d.plan.attemptLimit - 1) 1 d.plan.initialBackoff r
      (d.sendings t c request r) (d.retry t c request r).1 (d.retry t c request r).2 :=
  trail_retryBefore d none t c request r rfl

namespace Trail

variable {left number : Nat} {backoff : Duration} {r r' : Realm σ} {sends : List (Sending σ)}
  {outcome : Outcome Exchange}

/-- A trail starts with a send. -/
theorem getElem?_zero (h : Trail d deadline t c request left number backoff r sends outcome r') :
    sends[0]? = some (sending t c request number r) := by
  cases h with
  | last hs | exhausted hs | overdue hs | abandoned hs | again hs =>
    rw [hs]
    rfl

theorem eq_of_getElem?_zero
    (h : Trail d deadline t c request left number backoff r sends outcome r') {s : Sending σ}
    (hs : sends[0]? = some s) : s = sending t c request number r :=
  Option.some.inj (hs.symm.trans h.getElem?_zero)

/-- Every send of a trail is one of the request. -/
theorem request_eq (h : Trail d deadline t c request left number backoff r sends outcome r')
    {s : Sending σ} (hs : s ∈ sends) : s.request = request := by
  induction h with
  | last hfirst | exhausted hfirst | overdue hfirst | abandoned hfirst =>
    rw [List.mem_singleton.1 hs, hfirst]
    rfl
  | again hfirst _ _ _ _ _ _ ih =>
    obtain rfl | hlater := List.mem_cons.1 hs
    · rw [hfirst]
      rfl
    · exact ih hlater

/-- **Between two sends.** One send follows another when the exchange was worth another try and the
wait of the plan was completed. -/
theorem next_eq (h : Trail d deadline t c request left number backoff r sends outcome r') {i : Nat}
    {s next : Sending σ} (hi : sends[i]? = some s) (hnext : sends[i + 1]? = some next) :
    ∃ x delay w, s.outcome = .returned x ∧ x.isRetryable = true ∧
      (d.plan.waitsFrom left number backoff)[i]? = some delay ∧
      w = (logRetry c x delay (s.closed d)).wait d.time c delay ∧ w.1 = true ∧
      next = sending t c request (number + i + 1) w.2 := by
  induction h generalizing i with
  | last | exhausted | overdue | abandoned => cases hnext
  | @again left number backoff delay r r' w first x sends outcome _ hx hretry hdelay hw htrue hmore
      ih =>
    cases i with
    | zero =>
      obtain rfl := Option.some.inj hi
      refine ⟨x, delay, w, hx, hretry, ?_, hw, htrue, ?_⟩
      · rw [hdelay]
        rfl
      · exact hmore.eq_of_getElem?_zero hnext
    | succ i =>
      obtain ⟨y, delay', w', hy, hretry', hdelay', hw', htrue', hsent⟩ := ih hi hnext
      refine ⟨y, delay', w', hy, hretry', hdelay', hw', htrue', ?_⟩
      rw [hsent, Nat.add_right_comm number 1 i, Nat.add_assoc number i 1]

/-- **After the last send.** A delivery ends after a send that is not worth another, or when no
attempt is left, or in a wait that is not completed or over too late. -/
theorem getLast?_cases (h : Trail d deadline t c request left number backoff r sends outcome r')
    {s : Sending σ} (hlast : sends.getLast? = some s) :
    (∀ x, s.outcome = .returned x → x.isRetryable = false) ∧ outcome = s.outcome ∧
        r' = s.closed d ∨
      ∃ x, s.outcome = .returned x ∧ x.isRetryable = true ∧
        (sends.length = left + 1 ∧ outcome = .returned x ∧
            r' = logExhausted c request x (s.closed d) ∨
          sends.length ≤ left ∧ ∃ delay w,
            (d.plan.waitsFrom left number backoff)[sends.length - 1]? = some delay ∧
            w = (logRetry c x delay (s.closed d)).wait d.time c delay ∧
            (w.1 = false ∧ outcome = .returned
                { x with error := some (.cancelled (.ofNat (number + (sends.length - 1)))) } ∧
                r' = w.2.log c .info "retry cancelled" [] ∨
              w.1 = true ∧ w.2.isLate deadline = true ∧ outcome = .hung ∧ r' = w.2)) := by
  induction h with
  | last _ hend =>
    obtain rfl := Option.some.inj hlast
    exact .inl ⟨hend, rfl, rfl⟩
  | exhausted _ hx hretry =>
    obtain rfl := Option.some.inj hlast
    exact .inr ⟨_, hx, hretry, .inl ⟨rfl, rfl, rfl⟩⟩
  | abandoned _ hx hretry hdelay hw hfalse =>
    obtain rfl := Option.some.inj hlast
    refine .inr ⟨_, hx, hretry, .inr ⟨Nat.succ_pos _, _, _, ?_, hw, .inl ⟨hfalse, rfl, rfl⟩⟩⟩
    rw [hdelay]
    rfl
  | overdue _ hx hretry hdelay hw htrue hlate =>
    obtain rfl := Option.some.inj hlast
    refine .inr ⟨_, hx, hretry, .inr ⟨Nat.succ_pos _, _, _, ?_, hw,
      .inr ⟨htrue, hlate, rfl, rfl⟩⟩⟩
    rw [hdelay]
    rfl
  | @again left number backoff delay r r' w first x sends outcome _ _ _ _ _ _ hmore ih =>
    obtain ⟨next, later, rfl⟩ : ∃ next later, sends = next :: later := by
      cases sends with
      | nil => cases hmore.getElem?_zero
      | cons next later => exact ⟨next, later, rfl⟩
    rw [List.getLast?_cons_cons] at hlast
    obtain hdone | ⟨y, hy, hretry, hfull | ⟨hle, delay', w', hdelay, hw,
      ⟨hfalse, hout, hr'⟩ | hlate⟩⟩ := ih hlast
    · exact .inl hdone
    · exact .inr ⟨y, hy, hretry, .inl ⟨congrArg (· + 1) hfull.1, hfull.2⟩⟩
    · refine .inr ⟨y, hy, hretry, .inr ⟨Nat.succ_le_succ hle, delay', w', hdelay, hw,
        .inl ⟨hfalse, ?_, hr'⟩⟩⟩
      have hnumber : number + 1 + ((next :: later).length - 1) =
          number + ((first :: next :: later).length - 1) := by
        simp only [List.length_cons]
        omega
      rw [hout, hnumber]
    · exact .inr ⟨y, hy, hretry, .inr ⟨Nat.succ_le_succ hle, delay', w', hdelay, hw, .inr hlate⟩⟩

/-- A trail without a deadline is a course. -/
theorem course (h : Trail d none t c request left number backoff r sends outcome r') :
    Course d t c request left number backoff r sends outcome r' := by
  have hlog : ∀ (s : Sending σ) x delay, Realm.Calm s.finish (logRetry c x delay (s.closed d)) :=
    fun s x delay => (s.closed_calm d).trans (Realm.log_calm ..)
  induction h with
  | @last _ _ _ _ s hs hend =>
    refine .last (hs ▸ sending_isAttempt ..) (fun x hx hretry => ?_) (s.closed_calm d)
    rw [hend x hx] at hretry
    cases hretry
  | @exhausted _ _ _ s x hs hx hretry =>
    rw [← hx]
    exact .last (hs ▸ sending_isAttempt ..) (fun _ _ _ => rfl)
      ((s.closed_calm d).trans (Realm.log_calm ..))
  | abandoned hs hx hretry hdelay hw hfalse =>
    subst hw
    exact .abandoned (hs ▸ sending_isAttempt ..) hx hretry (hlog _ _ _) hdelay hfalse
      (Realm.log_calm ..)
  | overdue _ _ _ _ _ _ hlate => cases hlate
  | again hs hx hretry hdelay hw htrue _ ih =>
    subst hw
    exact .again (hs ▸ sending_isAttempt ..) hx hretry (hlog _ _ _) hdelay htrue ih

end Trail

/-- A delivery sends: there is a first attempt, every send is one of the request, and the delivery
comes out as it does by its sends. -/
structure Sends (d : Courier) (deadline : Option Nat) (t : Transport σ) (c : ContextId)
    (request : OutboundRequest) (r : Realm σ) : Prop where
  first : ∃ s, (d.sendingsBefore deadline t c request r)[0]? = some s ∧
    s.IsAttempt (t.before deadline) c request 1 r
  request_eq : ∀ s ∈ d.sendingsBefore deadline t c request r, s.request = request
  trail : Trail d deadline (t.before deadline) c request (d.plan.attemptLimit - 1) 1
    d.plan.initialBackoff r (d.sendingsBefore deadline t c request r)
    (d.sendBefore deadline t c request r).1 (d.sendBefore deadline t c request r).2

/-- A delivery through a registered transport that starts in time sends. -/
theorem sends_of_inTime (d : Courier) (t : Transport σ) (request : OutboundRequest) {r : Realm σ}
    (hknows : (r.context c).hasTransport = true) (hr : r.isLate deadline = false) :
    d.Sends deadline t c request r := by
  have htrail := d.trail_retryBefore deadline t c request r hr
  refine ⟨⟨_, htrail.getElem?_zero, sending_isAttempt ..⟩, fun _ => htrail.request_eq, ?_⟩
  rw [sendBefore, if_pos hknows]
  exact htrail

/-- With a registered transport an exchange comes from sends. -/
theorem sends_of_returned {r r' : Realm σ} {x : Exchange}
    (hknows : (r.context c).hasTransport = true)
    (h : d.sendBefore deadline t c request r = (.returned x, r')) :
    d.Sends deadline t c request r := by
  refine d.sends_of_inTime t request hknows (Bool.not_eq_true _ ▸ fun hlate => ?_)
  rw [sendBefore, if_pos hknows, retryBefore, attemptsFrom_of_late d t c request _ _ _ hlate] at h
  cases h

/-- **Every delivery takes a course.** -/
theorem course_retry (d : Courier) (t : Transport σ) (c : ContextId) (request : OutboundRequest)
    (r : Realm σ) :
    Course d t c request (d.plan.attemptLimit - 1) 1 d.plan.initialBackoff r
      (d.sendings t c request r) (d.retry t c request r).1 (d.retry t c request r).2 :=
  (trail_retry d t c request r).course

/-! ## What a course shows -/

namespace Course

variable {left number : Nat} {backoff : Duration} {r r' : Realm σ} {sends : List (Sending σ)}
  {outcome : Outcome Exchange}

/-- A course starts with a send. -/
theorem head?_eq (h : Course d t c request left number backoff r sends outcome r') :
    ∃ s, sends.head? = some s ∧ s.IsAttempt t c request number r := by
  cases h with
  | last hs => exact ⟨_, rfl, hs⟩
  | abandoned hs => exact ⟨_, rfl, hs⟩
  | again hs => exact ⟨_, rfl, hs⟩

/-- There is one send for each attempt that was left, at most. -/
theorem length_le (h : Course d t c request left number backoff r sends outcome r') :
    sends.length ≤ left + 1 := by
  induction h with
  | last => exact Nat.le_add_left 1 _
  | abandoned => exact Nat.le_add_left 1 _
  | again _ _ _ _ _ _ _ ih => exact Nat.succ_le_succ ih

/-- **Waits.** What no quiet step and no send changes is changed by the waits of the schedule, by
one for each send but the last. -/
theorem fold_waits {α : Type} {f : Realm σ → α} {g : α → Duration → α}
    (hquiet : ∀ {r r' : Realm σ}, Realm.Quiet r r' → f r' = f r)
    (hwait : ∀ (r : Realm σ) (delay : Duration), f (r.wait d.time c delay).2 =
      if (r.wait d.time c delay).1 then g (f r) delay else f r)
    (h : Course d t c request left number backoff r sends outcome r')
    (hstill : ∀ s ∈ sends, f s.finish = f s.start) :
    f r' = ((d.plan.waitsFrom left number backoff).take (sends.length - 1)).foldl g (f r) := by
  induction h with
  | last hs _ hend =>
    rw [hquiet hend.toQuiet, hstill _ List.mem_cons_self, hquiet hs.start_quiet]
    rfl
  | abandoned hs _ _ hw _ hfalse hend =>
    rw [hquiet hend.toQuiet, hwait, hfalse, hquiet hw.toQuiet, hstill _ List.mem_cons_self,
      hquiet hs.start_quiet]
    rfl
  | @again left number backoff delay r w r' s x sends outcome hs _ _ hw hdelay htrue hmore ih =>
    have hpos : sends.length = sends.length - 1 + 1 := by
      obtain ⟨s, hhead, -⟩ := hmore.head?_eq
      cases sends with
      | nil => cases hhead
      | cons => rfl
    have hstep : f (w.wait d.time c delay).2 = g (f r) delay := by
      rw [hwait, htrue, if_pos rfl, hquiet hw.toQuiet, hstill _ List.mem_cons_self,
        hquiet hs.start_quiet]
    rw [ih fun s hmem => hstill s (List.mem_cons_of_mem _ hmem), hstep, List.length_cons,
      Nat.add_sub_cancel, hpos, hdelay]
    rfl

/-- If no send sleeps, the sleeps of a course are the waits of the schedule, up to the last send. -/
theorem rests_eq (h : Course d t c request left number backoff r sends outcome r')
    (hstill : ∀ s ∈ sends, s.finish.rests = s.start.rests) :
    r'.rests.toList =
      r.rests.toList ++ (d.plan.waitsFrom left number backoff).take (sends.length - 1) := by
  have hfold := h.fold_waits (f := Realm.rests) (g := Array.push) (fun hq => hq.rests_eq)
    (fun r delay => ?_) hstill
  · rw [hfold, List.foldl_push_eq_append']
    simp
  · cases hw : (r.wait d.time c delay).1 with
    | false => exact (Realm.wait_abandoned_eq hw).1
    | true => exact (Realm.wait_completed hw).1

/-- If no send moves the shared clock, it is moved by the waits of the schedule, up to the last
send. -/
theorem clock_eq (h : Course d t c request left number backoff r sends outcome r')
    (hshared : d.time = .shared) (hstill : ∀ s ∈ sends, s.finish.clock = s.start.clock) :
    r'.clock = ((d.plan.waitsFrom left number backoff).take (sends.length - 1)).foldl Clock.sleep
      r.clock := by
  refine h.fold_waits (f := Realm.clock) (g := Clock.sleep) (fun hq => hq.clock_eq)
    (fun r delay => ?_) hstill
  rw [hshared]
  cases hw : (r.wait .shared c delay).1 with
  | false => exact (Realm.wait_abandoned_eq hw).2.1
  | true => exact Realm.clock_wait hw

end Course
end Courier
end EventRelay
