import EventRelay.Proofs.Delivery.Deadline
import EventRelay.Proofs.Service.Undelivered

/-!
# The time for a request

The time for a request is over thirty seconds after it came in. An event is answered by then at the
latest: with what comes of it, if that is known before, and else with 408. So the limit does no more
than to cut off, in a send or in a wait, what takes longer.

* `forward_cutOff`, `decide_cutOff`, `judge_cutOff`: the stages of an event with a deadline, beside
  the same stages without one.
* `serve_in_time`: when an event is answered, and which ones are cut off.
-/

namespace EventRelay

namespace Service

variable {σ : Type} {service : Service σ} {deadline : Nat}

theorem millis_settle (span : ContextId) (payload : ByteArray) (x : Exchange) (r : Realm σ) :
    (settle span payload x r).systemMillis = r.systemMillis := by
  unfold settle Realm.forget
  split
  · split
    · split <;> rfl
    · rfl
  · rfl

/-- To forward an event is its delivery, and what follows on it if it comes to an end. -/
theorem forward_eq_andThen (service : Service σ) (request : Http.Request) (span : ContextId)
    (payload : ByteArray) (r : Realm σ) :
    service.forward request span payload r =
      Outcome.andThen (service.courier.sendBefore service.deadline service.transport span
        (relayedRequest service.home.settings request (r.context span).id payload) r)
      fun x s => (.returned (.forwarded x), logExchange span x (settle span payload x s)) := by
  unfold forward
  dsimp only
  generalize service.courier.sendBefore service.deadline service.transport span _ r = sent
  obtain ⟨outcome, s⟩ := sent
  cases outcome <;> rfl

theorem forward_cutOff (hnone : service.deadline = none)
    (ht : Transport.Onward service.transport) (request : Http.Request) (span : ContextId)
    (payload : ByteArray) {r : Realm σ} (hr : r.systemMillis < deadline) :
    Outcome.CutOff deadline ((service.before deadline).forward request span payload r)
      (service.forward request span payload r) := by
  rw [forward_eq_andThen, forward_eq_andThen, hnone]
  dsimp only [before]
  refine Outcome.CutOff.andThen (Courier.sendBefore_cutOff _ deadline ht span _ hr) fun x s => ?_
  exact (logExchange_quiet span x _).millis_eq.trans (millis_settle span payload x s)

theorem decide_cutOff (hnone : service.deadline = none) (ht : Transport.Onward service.transport)
    (request : Http.Request) (span : ContextId) {r : Realm σ} (hr : r.systemMillis < deadline) :
    Outcome.CutOff deadline ((service.before deadline).decide request span r)
      (service.decide request span r) := by
  have hhome : (service.before deadline).home = service.home := rfl
  unfold decide
  rw [hhome]
  dsimp only
  cases request.readBody (bodyLimit service.home.settings) with
  | error reason => exact .of_inTime ((r.log_quiet _ _ _ _).millis_eq.symm ▸ hr)
  | ok payload =>
    have hnoted : (notePayload service.home.settings payload span r).systemMillis < deadline :=
      (notePayload_quiet service.home.settings payload span r).millis_eq.symm ▸ hr
    dsimp only
    split
    · exact .of_inTime ((Realm.log_quiet _ _ _ _ _).millis_eq.symm ▸ hnoted)
    · have hasked : ((notePayload service.home.settings payload span r).isDuplicate span
          payload).2.systemMillis < deadline :=
        (Realm.time_isDuplicate _ span payload).2.symm ▸ hnoted
      generalize Realm.isDuplicate _ span payload = asked at hasked ⊢
      obtain ⟨hit, s⟩ := asked
      cases hit with
      | true => exact .of_inTime ((s.log_quiet _ _ _ _).millis_eq.symm ▸ hasked)
      | false => exact forward_cutOff hnone ht request span payload hasked

theorem judge_cutOff (hnone : service.deadline = none) (ht : Transport.Onward service.transport)
    (parent : Option ContextId) (request : Http.Request) {r : Realm σ}
    (hr : r.systemMillis < deadline) :
    Outcome.CutOff deadline ((service.before deadline).judge parent request r)
      (service.judge parent request r) := by
  unfold judge
  rw [arrive_before]
  exact decide_cutOff hnone ht request _
    ((service.arrive_quiet parent request r).millis_eq.symm ▸ hr)

/-- **The time limit.** An event is answered when the time for its request is over, at the latest.
It is answered 408 then exactly if without the limit it would not be decided, or not before; and
else it is decided as without the limit. -/
theorem serve_in_time (service : Service σ) (hnone : service.deadline = none)
    (ht : Transport.Onward service.transport) {visit : Visit σ}
    (hmethod : visit.request.method = "POST") (hpath : visit.request.path = eventsRoute) :
    ∃ response r', service.serve visit.parent visit.request visit.start =
        (.returned response, r') ∧
      r'.systemMillis ≤ visit.start.systemMillis + requestTimeLimitMs.toNat ∧
      ((service.served visit).1 = .hung →
        response.status = 408 ∧
          r'.systemMillis = visit.start.systemMillis + requestTimeLimitMs.toNat) ∧
      ((service.served visit).1 = .hung ↔
        (service.judged (service.entered visit)).1 = .hung ∨
          visit.start.systemMillis + requestTimeLimitMs.toNat ≤
            (service.judged (service.entered visit)).2.systemMillis) ∧
      ((service.served visit).1 ≠ .hung →
        service.served visit = service.judged (service.entered visit)) := by
  obtain ⟨response, r', he, -, -, hmillis, hanswer⟩ := service.serve_cases hmethod hpath
  have hcut : Outcome.CutOff (deadlineFrom visit.start) (service.served visit)
      (service.judged (service.entered visit)) :=
    judge_cutOff hnone ht (service.entered visit).parent (service.entered visit).request
      (lt_deadlineFrom (service.entered_quiet visit).millis_eq)
  refine ⟨response, r', he, ?_, fun hhung => ⟨?_, ?_⟩, hcut.hung_iff, hcut.eq_of_ne⟩
  · rw [hmillis]
    split
    · exact Nat.le_refl _
    · next hdone =>
      rw [hcut.eq_of_ne hdone]
      exact Nat.le_of_lt (hcut.inTime hdone)
  · obtain ⟨verdict, hv, -⟩ | ⟨panic, hp, -⟩ | ⟨-, hstatus⟩ := hanswer
    · rw [hhung] at hv
      cases hv
    · rw [hhung] at hp
      cases hp
    · exact hstatus
  · rw [hmillis, if_pos hhung, deadlineFrom]

/-- A transport whose sends take some time on the machine's timer. -/
def taking (millis : Nat) : Transport Unit := fun _ _ r =>
  (.returned (.response 200 .empty), { r with systemMillis := r.systemMillis + millis })

/-- A service that delivers through it. -/
def leisurely (millis : Nat) : Service Unit :=
  .of ⟨0, { Settings.zero with endpoint := "http://down.test/" }, "test"⟩ (taking millis)

/-- A realm whose root has a transport. -/
def equipped : Realm Unit :=
  ((Realm.start (.startingAt 0) (fun n => n) (fun _ => "trace") ()).addRoot .kept).2.setHandle 0
    Key.httpTransport .transport

example : ((leisurely 29999).served ⟨none, posted "p", equipped⟩).1 =
      .returned (.forwarded (.response 200 .empty)) ∧
    ((leisurely 30000).served ⟨none, posted "p", equipped⟩).1 = .hung := by
  decide +kernel

end Service
end EventRelay
