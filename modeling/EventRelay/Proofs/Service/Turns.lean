import Mathlib.Logic.Relation
import EventRelay.Proofs.Service.Ingest

/-!
# An event in turns

Events that come in at the same time take turns: between two turns of one of them the others may
take theirs. This module cuts the handling of an event into the turns that it takes when its handler
is suspended wherever it may be: its arrival, its question to the duplicate cache, each send, each
wait, the withdrawal of what was not delivered, and its answer.

* `Stage`: where an event stands. `Service.turn`: its next turn.
* `proceeds_ingest`: an event that takes its turns without anybody in between is handled as by
  `Service.ingest`.
* `turn_extends`, `turn_retains`, `checker_turn_asking`, `checker_turn_settling`: what a turn does
  to the cache.
* `turn_knows`: an event that knows of the cache goes on knowing of it.
* `Next`, `next_turn`: which stages can follow one. `Next.inFlight_of`, `Next.of_inFlight`: how a
  delivery starts and how it ends.
-/

namespace EventRelay

-- Bytes are compared as the core library does, also where another instance is in sight.
local instance (priority := high) Stage.bytesDecidableEq : DecidableEq ByteArray := ByteArray.decEq

/-- An event that has arrived: at which reading of the clock, and the context of its span. -/
structure Arrival where
  started : UInt64
  span : ContextId
  deriving DecidableEq

/-- What is left of a delivery: the request, how many attempts are left after the next one, the
number of that one, and the backoff. -/
structure Errand where
  request : OutboundRequest
  left : Nat
  number : Nat
  backoff : Duration
  deriving DecidableEq

/-- Where an event stands: before its arrival, before its question to the cache, before a send or a
wait of its delivery, with its last exchange, with its verdict, or at its end. -/
inductive Stage where
  | arriving
  | asking (arrival : Arrival) (payload : ByteArray)
  | sending (arrival : Arrival) (errand : Errand)
  | pausing (arrival : Arrival) (errand : Errand) (exchange : Exchange)
  | settling (arrival : Arrival) (payload : ByteArray) (exchange : Exchange)
  | answering (arrival : Arrival) (verdict : Verdict)
  | ended (outcome : Outcome Http.Response)
  deriving DecidableEq

namespace Stage

/-- The stage after a piece of work: the next one, or the end if the work has no result. -/
def ofOutcome {α : Type} (next : α → Stage) : Outcome α → Stage
  | .returned a => next a
  | .panicked payload => ended (.panicked payload)
  | .hung => ended .hung

/-- The arrival of an event that is being handled. -/
def arrival? : Stage → Option Arrival
  | asking arrival _ | sending arrival _ | pausing arrival .. | settling arrival ..
  | answering arrival _ => some arrival
  | arriving | ended _ => none

/-- The payload of an event that is being delivered: it was let through, and the outcome has not
been dealt with. -/
def inFlight? : Stage → Option ByteArray
  | sending _ errand | pausing _ errand _ => some errand.request.payload
  | settling _ payload _ => some payload
  | _ => none

/-- The response with which an event was answered. -/
def response? : Stage → Option Http.Response
  | ended (.returned response) => some response
  | _ => none

theorem response?_eq_some_iff {stage : Stage} {response : Http.Response} :
    stage.response? = some response ↔ stage = .ended (.returned response) := by
  constructor
  · intro h
    unfold response? at h
    split at h
    · rw [Option.some.inj h]
    · cases h
  · rintro rfl
    rfl

/-- How far an event is. -/
def rank : Stage → Nat
  | arriving => 0
  | asking .. => 1
  | sending .. | pausing .. => 2
  | settling .. => 3
  | answering .. => 4
  | ended _ => 5

/-- An event that is being handled stands under a context that knows of the duplicate cache. -/
def Knows {σ : Type} (stage : Stage) (r : Realm σ) : Prop :=
  ∀ arrival, stage.arrival? = some arrival →
    arrival.span < r.contexts.size ∧ (r.context arrival.span).hasChecker = true

end Stage

namespace Service

variable {σ : Type}

/-- The next turn of an event. Without a transport a delivery ends before its first send. -/
def turn (service : Service σ) (parent : Option ContextId) (request : Http.Request) :
    Stage → Realm σ → Stage × Realm σ
  | .arriving, r =>
    let (span, s) := service.arrive parent request r
    match service.asked? request with
    | some payload =>
      (.asking ⟨r.clock.elapsed, span⟩ payload,
        notePayload service.home.settings payload span s)
    | none =>
      let (outcome, s) := service.decide request span s
      (.ofOutcome (.answering ⟨r.clock.elapsed, span⟩) outcome, s)
  | .asking arrival payload, r =>
    match r.isDuplicate arrival.span payload with
    | (true, r) =>
      (.answering arrival .duplicate,
        r.log arrival.span .info "duplicate event suppressed" [])
    | (false, r) =>
      let outbound := relayedRequest service.home.settings request
        (r.context arrival.span).id payload
      if (r.context arrival.span).hasTransport then
        (.sending arrival ⟨outbound, service.courier.plan.attemptLimit - 1, 1,
          service.courier.plan.initialBackoff⟩, r)
      else
        let (outcome, r) := service.courier.sendBefore service.deadline service.transport
          arrival.span outbound r
        (.ofOutcome (.settling arrival payload) outcome, r)
  | .sending arrival errand, r =>
    match service.courier.attemptBefore service.deadline service.transport arrival.span
        errand.request errand.number r with
    | (.returned x, r) =>
      if x.isRetryable then
        if errand.left = 0 then
          (.settling arrival errand.request.payload x,
            Courier.logExhausted arrival.span errand.request x r)
        else (.pausing arrival errand x, r)
      else (.settling arrival errand.request.payload x, r)
    | (.panicked payload, r) => (.ended (.panicked payload), r)
    | (.hung, r) => (.ended .hung, r)
  | .pausing arrival errand x, r =>
    let (delay, backoff) := service.courier.plan.nextDelay errand.number errand.backoff
    match (Courier.logRetry arrival.span x delay r).wait service.courier.time arrival.span
      delay with
    | (true, r) =>
      (.sending arrival ⟨errand.request, errand.left - 1, errand.number + 1, backoff⟩, r)
    | (false, r) =>
      (.settling arrival errand.request.payload
        { x with error := some (.cancelled (.ofNat errand.number)) },
        r.log arrival.span .info "retry cancelled" [])
  | .settling arrival payload x, r =>
    (.answering arrival (.forwarded x),
      logExchange arrival.span x (settle arrival.span payload x r))
  | .answering arrival verdict, r =>
    let (response, r) :=
      service.depart request arrival.span arrival.started verdict.response r
    (.ended (.returned response), r)
  | .ended outcome, r => (.ended outcome, r)

/-- An event gets from one stage to another by turns of its own, with nobody in between. -/
def Proceeds (service : Service σ) (parent : Option ContextId) (request : Http.Request) :
    Stage × Realm σ → Stage × Realm σ → Prop :=
  Relation.ReflTransGen fun p q => q = service.turn parent request p.1 p.2

variable {service : Service σ} {parent : Option ContextId} {request : Http.Request}

theorem Proceeds.step {stage stage' : Stage} {r r' : Realm σ}
    (h : service.Proceeds parent request (service.turn parent request stage r) (stage', r')) :
    service.Proceeds parent request (stage, r) (stage', r') :=
  .head rfl h

/-! ## Uninterrupted turns -/

/-- Sends and waits that nobody comes between are the delivery. -/
theorem proceeds_attempts (arrival : Arrival) (outbound : OutboundRequest) (left number : Nat)
    (backoff : Duration) (r : Realm σ) :
    service.Proceeds parent request (.sending arrival ⟨outbound, left, number, backoff⟩, r)
      (.ofOutcome (.settling arrival outbound.payload) (service.courier.attemptsFrom
          service.deadline service.transport arrival.span outbound left number backoff r).1,
        (service.courier.attemptsFrom service.deadline service.transport arrival.span outbound left
          number backoff r).2) := by
  induction left using Nat.strongRecOn generalizing number backoff r with
  | _ left ih =>
    refine .step ?_
    rw [Courier.attemptsFrom.eq_def]
    simp only [turn]
    generalize service.courier.attemptBefore service.deadline service.transport arrival.span
      outbound number r = tried
    obtain ⟨outcome, s⟩ := tried
    cases outcome with
    | panicked payload => exact .refl
    | hung => exact .refl
    | returned x =>
      cases hx : x.isRetryable with
      | false =>
        simp only [hx, Bool.false_eq_true, if_false]
        exact .refl
      | true =>
        cases left with
        | zero =>
          simp only [hx, if_true]
          exact .refl
        | succ left =>
          simp only [hx, if_true, Nat.succ_ne_zero, if_false]
          refine .step ?_
          simp only [turn]
          generalize (Courier.logRetry arrival.span x _ s).wait _ _ _ = waited
          obtain ⟨completed, s'⟩ := waited
          cases completed with
          | false => exact .refl
          | true => exact ih left (Nat.lt_succ_self _) _ _ s'

/-- A delivery that nobody comes between. -/
theorem proceeds_forward (arrival : Arrival) (payload : ByteArray) {r s : Realm σ}
    (hmiss : r.isDuplicate arrival.span payload = (false, s)) :
    service.Proceeds parent request (.asking arrival payload, r)
      (.ofOutcome (.answering arrival) (service.forward request arrival.span payload s).1,
        (service.forward request arrival.span payload s).2) := by
  have hpayload := (relayedRequest_eq service.home.settings request
    (s.context arrival.span).id payload).2
  have hsettle : ∀ sent, service.courier.sendBefore service.deadline service.transport
      arrival.span (relayedRequest service.home.settings request (s.context arrival.span).id
        payload) s = sent →
      service.Proceeds parent request (.ofOutcome (.settling arrival payload) sent.1, sent.2)
        (.ofOutcome (.answering arrival) (service.forward request arrival.span payload s).1,
          (service.forward request arrival.span payload s).2) := by
    rintro ⟨outcome, s'⟩ hsent
    unfold forward
    simp only [hsent]
    cases outcome with
    | returned x => exact .step .refl
    | panicked payload => exact .refl
    | hung => exact .refl
  refine .step ?_
  simp only [turn, hmiss]
  split
  · next htransport =>
    refine Relation.ReflTransGen.trans (proceeds_attempts ..) ?_
    rw [hpayload]
    refine hsettle _ ?_
    rw [Courier.sendBefore, if_pos htransport]
    rfl
  · exact hsettle _ rfl

/-- **Uninterrupted turns.** An event that takes its turns with nobody in between is handled as by
the handler. -/
theorem proceeds_ingest (service : Service σ) (parent : Option ContextId) (request : Http.Request)
    (r : Realm σ) :
    service.Proceeds parent request (.arriving, r)
      (.ended (service.ingest parent request r).1, (service.ingest parent request r).2) := by
  obtain ⟨span, s, harrive⟩ : ∃ span s, service.arrive parent request r = (span, s) :=
    ⟨_, _, rfl⟩
  -- The answer is the last turn, whatever the verdict is.
  have hanswer : ∀ decided, service.decide request span s = decided →
      service.Proceeds parent request (.ofOutcome (.answering ⟨r.clock.elapsed, span⟩) decided.1,
        decided.2) (.ended (service.ingest parent request r).1,
          (service.ingest parent request r).2) := by
    rintro ⟨outcome, s'⟩ hdecide
    unfold ingest
    simp only [harrive, hdecide]
    cases outcome with
    | returned verdict => exact .step .refl
    | panicked payload => exact .refl
    | hung => exact .refl
  refine .step ?_
  simp only [turn, harrive]
  cases hask : service.asked? request with
  | none => exact hanswer _ rfl
  | some payload =>
    obtain ⟨hend, hread⟩ := asked?_eq_some_iff.1 hask
    dsimp only
    cases hit : (notePayload service.home.settings payload span s).isDuplicate span payload with
    | mk duplicate s' =>
      cases duplicate with
      | true =>
        have hdecide : service.decide request span s = (.returned .duplicate,
            s'.log span .info "duplicate event suppressed" []) := by
          simp only [decide, hread, hend, hit, Bool.false_eq_true, if_false]
        refine .step ?_
        simp only [turn, hit]
        exact hanswer _ hdecide
      | false =>
        have hdecide : service.decide request span s =
            service.forward request span payload s' := by
          simp only [decide, hread, hend, hit, Bool.false_eq_true, if_false]
        refine Relation.ReflTransGen.trans
          (proceeds_forward ⟨r.clock.elapsed, span⟩ payload hit) ?_
        exact hanswer _ hdecide

/-! ## The cache and a turn -/

/-- An event that is not asked about has its verdict at once. -/
theorem decide_of_not_asked (hask : service.asked? request = none) (span : ContextId)
    (s : Realm σ) : ∃ verdict s', service.decide request span s = (.returned verdict, s') ∧
      (verdict = .unreadable ∨ verdict = .noEndpoint) ∧ Realm.Quiet s s' := by
  cases hread : request.readBody (bodyLimit service.home.settings) with
  | error reason =>
    obtain ⟨s', he, hq⟩ := decide_of_unreadable span s hread
    exact ⟨_, s', he, .inl rfl, hq⟩
  | ok payload =>
    cases hend : service.home.settings.endpoint.isEmpty with
    | true =>
      obtain ⟨s', he, hq⟩ := decide_of_noEndpoint span s hread hend
      exact ⟨_, s', he, .inr rfl, hq⟩
    | false =>
      rw [asked?_eq_some_iff.2 ⟨hend, hread⟩] at hask
      cases hask

section Realms

variable (ht : Transport.Retains service.transport)
include ht

/-- Only a question and a withdrawal touch the cache. -/
theorem turn_retains {stage : Stage} (r : Realm σ) (hask : ∀ arrival payload,
    stage ≠ .asking arrival payload) (hsettle : ∀ arrival payload x,
    stage ≠ .settling arrival payload x) :
    Realm.Retains r (service.turn parent request stage r).2 := by
  cases stage with
  | asking arrival payload => exact absurd rfl (hask arrival payload)
  | settling arrival payload x => exact absurd rfl (hsettle arrival payload x)
  | ended outcome => exact .refl r
  | answering arrival verdict => exact (service.depart_quiet ..).retains
  | arriving =>
    have harrive := service.arrive_quiet parent request r
    simp only [turn]
    cases hasked : service.asked? request with
    | some payload => exact (harrive.trans (notePayload_quiet ..)).retains
    | none =>
      obtain ⟨verdict, s', he, -, hq⟩ := decide_of_not_asked hasked
        (service.arrive parent request r).1 (service.arrive parent request r).2
      simp only [he]
      exact (harrive.trans hq).retains
  | sending arrival errand =>
    have htry := Courier.attemptBefore_retains (d := service.courier) ht service.deadline
      arrival.span errand.request errand.number r
    simp only [turn]
    generalize service.courier.attemptBefore _ _ _ _ _ _ = tried at htry ⊢
    obtain ⟨outcome, s⟩ := tried
    cases outcome with
    | panicked payload => exact htry
    | hung => exact htry
    | returned x =>
      dsimp only
      split
      · split
        · exact htry.trans (Realm.log_quiet ..).retains
        · exact htry
      · exact htry
  | pausing arrival errand x =>
    have hlog := (r.log_quiet arrival.span .debug "retrying request"
      [("status", toString x.status.toNat), ("delay_ms", toString (service.courier.plan.nextDelay
        errand.number errand.backoff).1.wholeMillis),
      ("transient", if x.error.all DeliveryFailure.isTransient then "true" else "false")]).retains
    have hwait := hlog.trans (Realm.wait_retains _ service.courier.time arrival.span
      (service.courier.plan.nextDelay errand.number errand.backoff).1)
    simp only [turn, Courier.logRetry]
    generalize Realm.wait _ _ _ _ = waited at hwait ⊢
    obtain ⟨completed, s⟩ := waited
    cases completed with
    | true => exact hwait
    | false => exact hwait.trans (Realm.log_quiet ..).retains

/-- A question does to the cache what the question does; without a transport the delivery after it
ends at once. -/
theorem turn_asking_retains (arrival : Arrival) (payload : ByteArray) (r : Realm σ) :
    Realm.Retains (r.isDuplicate arrival.span payload).2
      (service.turn parent request (.asking arrival payload) r).2 := by
  simp only [turn]
  generalize r.isDuplicate arrival.span payload = asked
  obtain ⟨duplicate, s⟩ := asked
  cases duplicate with
  | true => exact (s.log_quiet ..).retains
  | false =>
    dsimp only
    split
    · exact .refl s
    · exact Courier.sendBefore_retains ht ..

theorem turn_extends (stage : Stage) (r : Realm σ) :
    Realm.Extends r (service.turn parent request stage r).2 := by
  cases stage with
  | asking arrival payload =>
    exact (r.isDuplicate_extends arrival.span payload).trans
      (turn_asking_retains ht arrival payload r).toExtends
  | settling arrival payload x =>
    refine Realm.Extends.trans ?_ (logExchange_quiet arrival.span x _).retains.toExtends
    unfold settle
    split
    · exact r.forget_extends ..
    · exact .refl r
  | _ => exact (turn_retains ht r (by simp) (by simp)).toExtends

/-- A question in a realm with a cache. -/
theorem checker_turn_asking {arrival : Arrival} {payload : ByteArray} {r : Realm σ}
    {cache : DuplicateCache} (hcache : r.checker = some cache)
    (hknows : (r.context arrival.span).hasChecker = true) :
    (r.isDuplicate arrival.span payload).1 =
        (cache.check (digestOf payload) r.clock.wall).1 ∧
      (service.turn parent request (.asking arrival payload) r).2.checker =
        some (cache.check (digestOf payload) r.clock.wall).2 := by
  obtain ⟨s, he, hchecker, -⟩ := Realm.isDuplicate_eq hcache hknows payload
  have hturn : (service.turn parent request (.asking arrival payload) r).2.checker =
      (r.isDuplicate arrival.span payload).2.checker :=
    (turn_asking_retains ht arrival payload r).checker_eq
  rw [he] at hturn ⊢
  exact ⟨rfl, hturn.trans hchecker⟩

end Realms

/-- A withdrawal in a realm with a cache. -/
theorem checker_turn_settling {arrival : Arrival} {payload : ByteArray} {x : Exchange}
    {r : Realm σ} {cache : DuplicateCache} (hcache : r.checker = some cache)
    (hknows : (r.context arrival.span).hasChecker = true) :
    (service.turn parent request (.settling arrival payload x) r).2.checker =
      some (if x.isRetryable then cache.forget (digestOf payload) else cache) := by
  have hlog := logExchange_quiet arrival.span x (settle arrival.span payload x r)
  show (logExchange arrival.span x (settle arrival.span payload x r)).checker = _
  rw [hlog.checker_eq, settle]
  split
  · exact Realm.checker_forget hcache hknows payload
  · exact hcache

/-- Without a cache a turn makes none. -/
theorem checker_turn_of_none (ht : Transport.Retains service.transport) {stage : Stage}
    {r : Realm σ} (hnone : r.checker = none) :
    (service.turn parent request stage r).2.checker = none := by
  cases stage with
  | asking arrival payload =>
    rw [(turn_asking_retains ht arrival payload r).checker_eq, r.isDuplicate_of_none hnone]
    exact hnone
  | settling arrival payload x =>
    show (logExchange arrival.span x (settle arrival.span payload x r)).checker = none
    rw [(logExchange_quiet arrival.span x _).checker_eq, settle, Realm.forget, hnone]
    split
    · exact hnone
    · exact hnone
  | _ => exact (turn_retains ht r (by simp) (by simp)).checker_eq.trans hnone

/-! ## From stage to stage -/

/-- What can come after a stage, for a turn that is taken in a realm. -/
inductive Next (service : Service σ) (request : Http.Request) (r : Realm σ) : Stage → Stage → Prop
  | arrived {payload : ByteArray} : service.asked? request = some payload →
      Next service request r .arriving (.asking ⟨r.clock.elapsed, r.contexts.size⟩ payload)
  | refused {verdict : Verdict} : service.asked? request = none →
      verdict = .unreadable ∨ verdict = .noEndpoint →
      Next service request r .arriving (.answering ⟨r.clock.elapsed, r.contexts.size⟩ verdict)
  | duplicate {arrival : Arrival} {payload : ByteArray} :
      (r.isDuplicate arrival.span payload).1 = true →
      Next service request r (.asking arrival payload) (.answering arrival .duplicate)
  | accepted {arrival : Arrival} {payload : ByteArray} {errand : Errand} :
      (r.isDuplicate arrival.span payload).1 = false → errand.request.payload = payload →
      Next service request r (.asking arrival payload) (.sending arrival errand)
  | undelivered {arrival : Arrival} {payload : ByteArray} {x : Exchange} :
      (r.isDuplicate arrival.span payload).1 = false →
      Next service request r (.asking arrival payload) (.settling arrival payload x)
  | tried {arrival : Arrival} {errand : Errand} {x : Exchange} :
      Next service request r (.sending arrival errand) (.pausing arrival errand x)
  | settled {arrival : Arrival} {errand : Errand} {x : Exchange} :
      Next service request r (.sending arrival errand)
        (.settling arrival errand.request.payload x)
  | broken {arrival : Arrival} {errand : Errand} {outcome : Outcome Http.Response} :
      (∀ response, outcome ≠ .returned response) →
      Next service request r (.sending arrival errand) (.ended outcome)
  | waited {arrival : Arrival} {errand errand' : Errand} {x : Exchange} :
      errand'.request = errand.request →
      Next service request r (.pausing arrival errand x) (.sending arrival errand')
  | abandoned {arrival : Arrival} {errand : Errand} {x y : Exchange} :
      Next service request r (.pausing arrival errand x)
        (.settling arrival errand.request.payload y)
  | dealt {arrival : Arrival} {payload : ByteArray} {x : Exchange} :
      Next service request r (.settling arrival payload x) (.answering arrival (.forwarded x))
  | answered {arrival : Arrival} {verdict : Verdict} {response : Http.Response} :
      response.status = verdict.response.status → response.body = verdict.response.body →
      Next service request r (.answering arrival verdict) (.ended (.returned response))
  | ended {outcome : Outcome Http.Response} :
      Next service request r (.ended outcome) (.ended outcome)

/-- A turn leads to a stage that can come next. -/
theorem next_turn (service : Service σ) (parent : Option ContextId) (request : Http.Request)
    (stage : Stage) (r : Realm σ) :
    service.Next request r stage (service.turn parent request stage r).1 := by
  cases stage with
  | ended outcome => exact .ended
  | settling arrival payload x => exact .dealt
  | answering arrival verdict =>
    have hcorrelation := Http.Response.status_withCorrelation
      service.home.settings.transactionHeader (r.context arrival.span).id verdict.response
    exact .answered hcorrelation.1 hcorrelation.2
  | arriving =>
    have hspan := service.arrive_fst parent request r
    simp only [turn]
    cases hask : service.asked? request with
    | some payload =>
      dsimp only
      rw [hspan]
      exact .arrived hask
    | none =>
      obtain ⟨verdict, s', he, hverdict, -⟩ := decide_of_not_asked hask
        (service.arrive parent request r).1 (service.arrive parent request r).2
      simp only [he]
      rw [hspan]
      exact .refused hask hverdict
  | asking arrival payload =>
    simp only [turn]
    cases hit : r.isDuplicate arrival.span payload with
    | mk hit' s =>
      cases hit' with
      | true => exact .duplicate (by rw [hit])
      | false =>
        have hmiss : (r.isDuplicate arrival.span payload).1 = false := by rw [hit]
        dsimp only
        split
        · exact .accepted hmiss (relayedRequest_eq service.home.settings request
            (s.context arrival.span).id payload).2
        · next htransport =>
          rw [Courier.sendBefore, if_neg htransport]
          exact .undelivered hmiss
  | sending arrival errand =>
    simp only [turn]
    generalize service.courier.attemptBefore _ _ _ _ _ _ = tried
    obtain ⟨outcome, s⟩ := tried
    cases outcome with
    | panicked payload => exact .broken (by simp)
    | hung => exact .broken (by simp)
    | returned x =>
      dsimp only
      split
      · split
        · exact .settled
        · exact .tried
      · exact .settled
  | pausing arrival errand x =>
    simp only [turn]
    generalize Realm.wait _ _ _ _ = waited
    obtain ⟨completed, s⟩ := waited
    cases completed with
    | true => exact .waited rfl
    | false => exact .abandoned

namespace Next

variable {r : Realm σ} {stage stage' : Stage}

/-- An event does not go back. -/
theorem rank_le (h : service.Next request r stage stage') : stage.rank ≤ stage'.rank := by
  cases h <;> simp [Stage.rank]

/-- An event asks once. -/
theorem rank_lt_of_asking {arrival : Arrival} {payload : ByteArray}
    (h : service.Next request r (.asking arrival payload) stage') : 1 < stage'.rank := by
  cases h <;> simp [Stage.rank]

/-- The outcome of a delivery is dealt with once. -/
theorem rank_lt_of_settling {arrival : Arrival} {payload : ByteArray} {x : Exchange}
    (h : service.Next request r (.settling arrival payload x) stage') : 3 < stage'.rank := by
  cases h
  simp [Stage.rank]

theorem arrival?_eq (h : service.Next request r stage stage') (hstage : stage ≠ .arriving)
    {arrival : Arrival} (harrival : stage'.arrival? = some arrival) :
    stage.arrival? = some arrival := by
  cases h <;> first | exact absurd rfl hstage | exact harrival | cases harrival

/-- An event asks about its own payload. -/
theorem asked?_eq {arrival : Arrival} {payload : ByteArray}
    (h : service.Next request r stage (.asking arrival payload)) :
    service.asked? request = some payload := by
  cases h with
  | arrived hask => exact hask

/-- A delivery goes on, or its outcome is dealt with, or the event ends without an answer. -/
theorem of_inFlight (h : service.Next request r stage stage') {payload : ByteArray}
    (hp : stage.inFlight? = some payload) :
    stage'.inFlight? = some payload ∨ (∃ arrival x, stage = .settling arrival payload x) ∨
      ∃ outcome, stage' = .ended outcome ∧ ∀ response, outcome ≠ .returned response := by
  cases h with
  | tried => exact .inl hp
  | settled => exact .inl hp
  | abandoned => exact .inl hp
  | @waited _ errand errand' _ he =>
    refine .inl ?_
    show some errand'.request.payload = some payload
    rw [he]
    exact hp
  | @dealt arrival sent x =>
    obtain rfl : sent = payload := Option.some.inj hp
    exact .inr (.inl ⟨arrival, x, rfl⟩)
  | @broken _ _ outcome hnone => exact .inr (.inr ⟨outcome, rfl, hnone⟩)
  | _ => cases hp

/-- A delivery starts with a question that lets the payload through. -/
theorem inFlight_of (h : service.Next request r stage stage') {payload : ByteArray}
    (hp : stage'.inFlight? = some payload) :
    stage.inFlight? = some payload ∨
      ∃ arrival, stage = .asking arrival payload ∧
        (r.isDuplicate arrival.span payload).1 = false := by
  cases h with
  | tried => exact .inl hp
  | settled => exact .inl hp
  | abandoned => exact .inl hp
  | @waited _ errand errand' _ he =>
    refine .inl ?_
    show some errand.request.payload = some payload
    rw [← he]
    exact hp
  | @accepted arrival asked errand hmiss he =>
    obtain rfl : asked = payload := he.symm.trans (Option.some.inj hp)
    exact .inr ⟨arrival, rfl, hmiss⟩
  | @undelivered arrival asked x hmiss =>
    obtain rfl : asked = payload := Option.some.inj hp
    exact .inr ⟨arrival, rfl, hmiss⟩
  | _ => cases hp

/-- What is let through is in flight. -/
theorem inFlight?_of_asking {arrival : Arrival} {payload : ByteArray}
    (h : service.Next request r (.asking arrival payload) stage')
    (hmiss : (r.isDuplicate arrival.span payload).1 = false) :
    stage'.inFlight? = some payload := by
  cases h with
  | duplicate hhit =>
    rw [hhit] at hmiss
    cases hmiss
  | accepted _ he => exact congrArg some he
  | undelivered => rfl

/-- What is a duplicate is answered as one. -/
theorem answering_of_asking {arrival : Arrival} {payload : ByteArray}
    (h : service.Next request r (.asking arrival payload) stage')
    (hhit : (r.isDuplicate arrival.span payload).1 = true) :
    stage' = .answering arrival .duplicate := by
  cases h with
  | duplicate => rfl
  | accepted hmiss | undelivered hmiss =>
    rw [hhit] at hmiss
    cases hmiss

/-- Only what is a duplicate is answered as one. -/
theorem asking_of_answering {arrival : Arrival}
    (h : service.Next request r stage (.answering arrival .duplicate)) :
    ∃ payload, stage = .asking arrival payload ∧
      (r.isDuplicate arrival.span payload).1 = true := by
  cases h with
  | refused _ hverdict => simp at hverdict
  | @duplicate _ payload hhit => exact ⟨payload, rfl, hhit⟩

end Next

/-- An event knows of the cache if the context does under which it comes in, and goes on knowing of
it. -/
theorem turn_knows (ht : Transport.Retains service.transport) (stage : Stage) (r : Realm σ)
    (hparent : stage = .arriving → (r.context (parent.getD service.home.root)).hasChecker = true)
    (h : stage.Knows r) : (service.turn parent request stage r).1.Knows
      (service.turn parent request stage r).2 := by
  intro arrival harrival
  have hnext := service.next_turn parent request stage r
  by_cases hstage : stage = .arriving
  · subst hstage
    obtain ⟨hlt, hknows⟩ := service.hasChecker_arrive parent request r
    rw [hparent rfl] at hknows
    have hspan : arrival.span = r.contexts.size := by
      generalize (service.turn parent request .arriving r).1 = stage' at hnext harrival
      cases hnext with
      | arrived => exact (congrArg Arrival.span (Option.some.inj harrival)).symm
      | refused => exact (congrArg Arrival.span (Option.some.inj harrival)).symm
    have hlater : Realm.Extends (service.arrive parent request r).2
        (service.turn parent request .arriving r).2 := by
      simp only [turn]
      cases hask : service.asked? request with
      | some payload => exact (notePayload_quiet ..).retains.toExtends
      | none =>
        obtain ⟨verdict, s', he, -, hq⟩ := decide_of_not_asked hask
          (service.arrive parent request r).1 (service.arrive parent request r).2
        simp only [he]
        exact hq.retains.toExtends
    rw [hspan]
    exact ⟨Nat.lt_of_lt_of_le hlt hlater.size_le, (hlater.hasChecker_eq _ hlt).trans hknows⟩
  · obtain ⟨hlt, hknows⟩ := h arrival (hnext.arrival?_eq hstage harrival)
    have hext : Realm.Extends r (service.turn parent request stage r).2 := turn_extends ht stage r
    exact ⟨Nat.lt_of_lt_of_le hlt hext.size_le, (hext.hasChecker_eq _ hlt).trans hknows⟩

end Service
end EventRelay
