import EventRelay.Proofs.Delivery.Course
import EventRelay.Proofs.Delivery.Schedule

/-!
# A delivery that is abandoned

Work is abandoned at its own context or at one that this was derived from, and at any moment:
before a delivery, during a send or during a wait. A delivery notices at its next wait, and a send
that was started is always waited for.

* `Course.stops`: the send at which a delivery is abandoned is its last one.
* `Course.live_of_later`: no send but the first starts when the work is abandoned.
* `Script.send_ages`, `HttpClient.send_ages`: the transports of this library take no abandonment
  back.
* `retry_abandoned`: what an abandoned delivery sends, how long it sleeps, and what comes out.
-/

namespace EventRelay
namespace Courier

variable {σ : Type} {d : Courier} {t : Transport σ} {c a : ContextId} {request : OutboundRequest}

namespace Course

variable {left number : Nat} {backoff : Duration} {r r' : Realm σ} {sends : List (Sending σ)}
  {outcome : Outcome Exchange}

/-- The work is abandoned during a send, or during the wait after it. -/
def AbandonedAt (d : Courier) (a : ContextId) (wait? : Option Duration) (s : Sending σ) : Prop :=
  s.finish.isCancelled a = true ∨
    a ∈ s.finish.interrupts ∧ ∃ delay, wait? = some delay ∧ Realm.isInstant d.time delay = false

/-- The wait after a send at which the work is abandoned is not completed. -/
theorem wait_stops {s : Sending σ} {w : Realm σ} {delay : Duration} (hr : s.finish.Reaching)
    (hc : c < s.finish.contexts.size) (hac : c = a ∨ a ∈ s.finish.lineage c)
    (hab : AbandonedAt d a (some delay) s) (hw : Realm.Calm s.finish w) :
    (w.wait d.time c delay).1 = false := by
  have ha : a < s.finish.contexts.size := by
    obtain rfl | hmem := hac
    · exact hc
    · exact hr.lt_size c hc a hmem
  refine Realm.wait_stops (hw.reaching hr) (Nat.lt_of_lt_of_le hc hw.size_le)
    (a := a) (by rwa [hw.lineage_eq c hc]) ?_
  obtain h | ⟨hmem, delay', hdelay, hslow⟩ := hab
  · exact .inl (hw.cancelled a ha h)
  · obtain rfl := Option.some.inj hdelay
    exact .inr ⟨by rwa [hw.interrupts_eq], hslow⟩

/-- **The last send.** A course ends with the send at which the work is abandoned, by its exchange
if that is not worth another try or no attempt is left, else as abandoned; the sleeps and the clock
are as the send left them. -/
theorem stops (ht : Transport.Ages t)
    (h : Course d t c request left number backoff r sends outcome r') (hr : r.Reaching)
    (hc : c < r.contexts.size) (hac : c = a ∨ a ∈ r.lineage c) {i : Nat} {s : Sending σ}
    {x : Exchange} (hi : sends[i]? = some s) (hx : s.outcome = .returned x)
    (hab : AbandonedAt d a (d.plan.waitsFrom left number backoff)[i]? s) :
    sends.length = i + 1 ∧
      outcome = .returned (if x.isRetryable ∧ i < left then
        { x with error := some (.cancelled (.ofNat (number + i))) } else x) ∧
      r'.rests = s.finish.rests ∧ r'.clock = s.finish.clock := by
  induction h generalizing i with
  | @last left number backoff r r' first hfirst hend hlast =>
    cases i with
    | succ i => cases hi
    | zero =>
      obtain rfl := Option.some.inj hi
      refine ⟨rfl, ?_, hlast.rests_eq, hlast.clock_eq⟩
      have hnone : ¬ (x.isRetryable = true ∧ 0 < left) := by
        rintro ⟨hretry, hpos⟩
        rw [hend x hx hretry] at hpos
        exact Nat.lt_irrefl 0 hpos
      rw [if_neg hnone, hx]
  | @abandoned left number backoff delay r w r' first y hfirst hy hretry hw hdelay hfalse hlast =>
    cases i with
    | succ i => cases hi
    | zero =>
      obtain rfl := Option.some.inj hi
      obtain rfl : x = y := Outcome.returned.inj (hx.symm.trans hy)
      obtain ⟨hrests, hclock, -⟩ := Realm.wait_abandoned_eq hfalse
      refine ⟨rfl, ?_, ?_, ?_⟩
      · rw [if_pos ⟨hretry, Nat.succ_pos _⟩, Nat.add_zero]
      · rw [hlast.rests_eq, hrests, hw.rests_eq]
      · rw [hlast.clock_eq, hclock, hw.clock_eq]
  | @again left number backoff delay r w r' first y sends outcome hfirst hy hretry hw hdelay htrue
      hmore ih =>
    have hsent := hfirst.ages ht hc
    cases i with
    | zero =>
      obtain rfl := Option.some.inj hi
      have hwait : (d.plan.waitsFrom (left + 1) number backoff)[0]? = some delay := by
        rw [hdelay]
        rfl
      rw [hwait] at hab
      rw [wait_stops (hsent.reaching hr) (Nat.lt_of_lt_of_le hc hsent.size_le)
        (by rwa [hsent.lineage_eq c hc]) hab hw] at htrue
      cases htrue
    | succ i =>
      have hages : Realm.Ages r (w.wait d.time c delay).2 :=
        (hsent.trans hw.toAges).trans (Realm.wait_ages ..)
      obtain ⟨hlen, hout, hrests, hclock⟩ := ih (hages.reaching hr)
        (Nat.lt_of_lt_of_le hc hages.size_le) (by rwa [hages.lineage_eq c hc]) hi hab
      refine ⟨congrArg (· + 1) hlen, ?_, hrests, hclock⟩
      rw [hout]
      simp only [Nat.succ_lt_succ_iff, Nat.add_assoc, Nat.add_comm 1 i]

/-- No send but the first starts when the work is abandoned. -/
theorem live_of_later (ht : Transport.Ages t)
    (h : Course d t c request left number backoff r sends outcome r') (hc : c < r.contexts.size)
    {i : Nat} {s : Sending σ} (hi : sends[i + 1]? = some s) : s.start.isCancelled c = false := by
  induction h generalizing i with
  | last => cases hi
  | abandoned => cases hi
  | @again left number backoff delay r w r' first y sends outcome hfirst hy hretry hw hdelay htrue
      hmore ih =>
    have hages : Realm.Ages r (w.wait d.time c delay).2 :=
      ((hfirst.ages ht hc).trans hw.toAges).trans (Realm.wait_ages ..)
    have hlt := Nat.lt_of_lt_of_le hc hages.size_le
    cases i with
    | zero =>
      obtain ⟨next, hhead, hnext⟩ := hmore.head?_eq
      rw [List.head?_eq_getElem?] at hhead
      obtain rfl : next = s := Option.some.inj (hhead.symm.trans hi)
      rw [hnext.start_quiet.cancelled_eq c hlt]
      exact Realm.isCancelled_wait htrue
    | succ i => exact ih hlt hi

end Course
end Courier

/-! ## The transports of this library -/

theorem Script.send_ages : Transport.Ages Script.send := by
  have hbears : Script.Bears Realm.Ages :=
    ⟨Realm.Ages.trans, fun h _ => .of_contexts_eq h, Realm.cancel_ages⟩
  exact Script.bears_send hbears

theorem HttpClient.send_ages : Transport.Ages HttpClient.send := by
  intro span request r
  unfold HttpClient.send
  exact .of_contexts_eq rfl

namespace Courier

variable {σ : Type}

/-- **Abandonment.** Through any transport that takes no abandonment back, a delivery sends at least
once, and no send but the first starts when the work is abandoned. Let the work be abandoned, at
its own context or at one that this was derived from, before the delivery, during a send or during
the wait after it. Then this send is the last one. If its exchange is not worth another try or the
attempts of the plan are used up, the exchange comes out as it is; else it comes out with a failure
that says after how many attempts the work was abandoned. The wait that was given up is not kept
among the sleeps and moves no clock. -/
theorem retry_abandoned (d : Courier) (t : Transport σ) (c a : ContextId)
    (request : OutboundRequest) (r : Realm σ)
    (ht : Transport.Ages t) (hr : r.Reaching) (hc : c < r.contexts.size)
    (hac : c = a ∨ a ∈ r.lineage c) :
    d.sendings t c request r ≠ [] ∧
    (∀ i s, (d.sendings t c request r)[i + 1]? = some s → s.start.isCancelled c = false) ∧
    ∀ i s x, 1 ≤ i → (d.sendings t c request r)[i - 1]? = some s → s.outcome = .returned x →
      i = 1 ∧ r.isCancelled a = true ∨ s.finish.isCancelled a = true ∨
        a ∈ s.finish.interrupts ∧ (∃ delay, d.plan.schedule[i - 1]? = some delay ∧
          Realm.isInstant d.time delay = false) →
      (d.sendings t c request r).length = i ∧
      (∃ n : UInt32, n.toNat = i ∧ (d.retry t c request r).1 = .returned
        (if x.isRetryable = false ∨ i = max d.plan.maxAttempts.toNat 1 then x
          else { x with error := some (.cancelled n) })) ∧
      (d.retry t c request r).2.rests = s.finish.rests ∧
      (d.retry t c request r).2.clock = s.finish.clock ∧
      ((∀ s ∈ d.sendings t c request r, s.finish.rests = s.start.rests) →
        (d.retry t c request r).2.rests.toList = r.rests.toList ++ d.plan.schedule.take (i - 1)) ∧
      (d.time = .shared → (∀ s ∈ d.sendings t c request r, s.finish.clock = s.start.clock) →
        (d.retry t c request r).2.clock =
          (d.plan.schedule.take (i - 1)).foldl Clock.sleep r.clock) := by
  have hcourse := course_retry d t c request r
  obtain ⟨first, hhead, hfirst⟩ := hcourse.head?_eq
  refine ⟨fun hnil => ?_, fun i s => hcourse.live_of_later ht hc, fun i s x hpos hi hx hab => ?_⟩
  · rw [hnil] at hhead
    cases hhead
  · obtain ⟨k, rfl⟩ : ∃ k, i = k + 1 := ⟨i - 1, by omega⟩
    rw [Nat.add_sub_cancel] at hi hab ⊢
    have ha : a < r.contexts.size := by
      obtain rfl | hmem := hac
      · exact hc
      · exact hr.lt_size c hc a hmem
    -- What was abandoned before the delivery is abandoned when its first send ends.
    have hat : Course.AbandonedAt d a d.plan.schedule[k]? s := by
      obtain ⟨hone, hbefore⟩ | hduring | hwait := hab
      · obtain rfl : k = 0 := by omega
        rw [List.head?_eq_getElem?] at hhead
        obtain rfl : first = s := Option.some.inj (hhead.symm.trans hi)
        exact .inl ((hfirst.ages ht hc).cancelled a ha hbefore)
      · exact .inl hduring
      · exact .inr hwait
    obtain ⟨hlen, hout, hrests, hclock⟩ := hcourse.stops ht hr hc hac hi hx hat
    have hleft : d.plan.attemptLimit = max d.plan.maxAttempts.toNat 1 := rfl
    have hword : max d.plan.maxAttempts.toNat 1 < UInt32.size :=
      Nat.max_lt.2 ⟨d.plan.maxAttempts.toNat_lt_size, by decide⟩
    have hle := hcourse.length_le
    refine ⟨hlen, ⟨.ofNat (1 + k), ?_, ?_⟩, hrests, hclock, fun hstill => ?_,
      fun hshared hstill => ?_⟩
    · rw [UInt32.toNat_ofNat_of_lt' (by omega)]
      omega
    · have hcond : (x.isRetryable = true ∧ k < d.plan.attemptLimit - 1) ↔
          ¬ (x.isRetryable = false ∨ k + 1 = max d.plan.maxAttempts.toNat 1) := by
        rw [not_or, Bool.not_eq_false]
        exact and_congr_right fun _ => by omega
      rw [hout]
      simp only [hcond, ite_not]
    · rw [hcourse.rests_eq hstill, hlen, Nat.add_sub_cancel]
      rfl
    · rw [hcourse.clock_eq hshared hstill, hlen, Nat.add_sub_cancel]
      rfl

/-- A root and a context derived from it. The answers to come are worth another try, and the work of
the root is abandoned during the wait after the second one. -/
def doomed : Realm Script :=
  (Realm.start (.startingAt 0) (fun _ => 0) (fun _ => "") (.ofExchanges [.response 500 .empty,
    .response 503 .empty] [⟨some 2, none, none, some .cancelInWait⟩])).after
      (fun i => if i = 0 then .addRoot .console else .derive 0) 2

theorem retry_abandoned_doomed :
    Transport.Ages Script.send ∧ doomed.Reaching ∧ 1 < doomed.contexts.size ∧
      0 ∈ doomed.lineage 1 ∧
      (patient.sendings Script.send 1 (.post "http://down.test/" .empty) doomed).length = 2 ∧
      (patient.retry Script.send 1 (.post "http://down.test/" .empty) doomed).1 =
        .returned ⟨.empty, 503, some (.cancelled 2)⟩ ∧
      (patient.retry Script.send 1 (.post "http://down.test/" .empty) doomed).2.rests.toList =
        [.ofMillis 100] := by
  have hreaching : doomed.Reaching := by
    refine Realm.reaching_after _ _ rfl 2 fun k hk parent hparent => ?_
    obtain rfl | rfl : k = 0 ∨ k = 1 := by omega
    · cases hparent
    · obtain rfl := Option.some.inj hparent
      decide +kernel
  have hthere : 1 < doomed.contexts.size := by decide +kernel
  have hderived : 0 ∈ doomed.lineage 1 := by decide +kernel
  obtain ⟨s, hs⟩ : ∃ s, (patient.sendings Script.send 1 (.post "http://down.test/" .empty)
      doomed)[1]? = some s := Option.isSome_iff_exists.1 (by decide +kernel)
  have hout : s.outcome = .returned (.response 503 .empty) := by
    have h : ((patient.sendings Script.send 1 (.post "http://down.test/" .empty)
        doomed)[1]?.map Sending.outcome) = some (.returned (.response 503 .empty)) := by
      decide +kernel
    rw [hs] at h
    exact Option.some.inj h
  have hinterrupt : s.finish.interrupts = [0] := by
    have h : ((patient.sendings Script.send 1 (.post "http://down.test/" .empty)
        doomed)[1]?.map (fun s => s.finish.interrupts)) = some [0] := by decide +kernel
    rw [hs] at h
    exact Option.some.inj h
  obtain ⟨-, -, h⟩ := retry_abandoned patient Script.send 1 0 (.post "http://down.test/" .empty)
    doomed Script.send_ages hreaching hthere (.inr hderived)
  obtain ⟨hlen, ⟨n, hn, hresult⟩, -, -, hrests, -⟩ := h 2 s _ (by decide) hs hout
    (.inr (.inr ⟨by rw [hinterrupt]; decide, _, rfl, by decide⟩))
  obtain rfl : n = 2 := UInt32.toNat.inj hn
  refine ⟨Script.send_ages, hreaching, hthere, hderived, hlen, ?_, ?_⟩
  · rw [hresult]
    decide +kernel
  · rw [hrests (by decide +kernel)]
    decide +kernel

end Courier
end EventRelay
