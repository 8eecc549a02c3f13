import EventRelay.Proofs.Service.Traffic

/-!
# Duplicates of what is under way

Between the question about a payload and the end of its delivery other events are told that it is a
duplicate, before anybody knows whether it arrives. This module says what stands behind a duplicate
when events are handled at the same time.

* `Delivery.kept_or_undecided`: a delivery whose digest still stands was not in vain, or is under
  way.
* `duplicate_while_undecided`: behind a duplicate stands a delivery that was let through before it
  and either arrived or was still under way.
* `duplicate_of_undelivered`: in a run in which nothing arrives an event is answered as a duplicate.
-/

namespace EventRelay

variable {σ : Type} {service : Service σ} {posts : Nat → Post} {r : Realm σ} {run : Traffic σ}
  {n : Nat}

open Traffic

/-- Who asks has arrived, so a run in which all that arrived are answered answers it. -/
theorem Interleaved.answered_of_checks (h : Interleaved service posts r n run)
    (hdone : ∀ i, run.stage n i = .arriving ∨ ∃ response, (run.stage n i).response? = some response)
    {k i : Nat} (hk : k < n) {payload : ByteArray} {duplicate : Bool}
    (hchecks : run.Checks k i payload duplicate) :
    ∃ response, (run.stage n i).response? = some response := by
  obtain ⟨-, arrival, hstage, -⟩ := hchecks
  refine (hdone i).resolve_left fun hnew => ?_
  have hrank := h.rank_le (Nat.le_of_lt hk) (Nat.le_refl n) i
  rw [hstage, hnew] at hrank
  exact Nat.not_succ_le_zero 0 hrank

/-- A delivery whose digest still stands when another event asks was not in vain, or has not been
dealt with. -/
theorem Traffic.Delivery.kept_or_undecided {j f k i l : Nat} {before payload : ByteArray}
    {x : Exchange} {s : UInt64} {duplicate : Bool} (hdelivery : run.Delivery n j f i before x)
    (hdigest : digestOf before = digestOf payload)
    (hstanding : DuplicateCache.Standing run.event (digestOf payload) s j k)
    (hchecks : run.Checks k l payload duplicate) : x.isRetryable = false ∨ k < f := by
  cases hretry : x.isRetryable with
  | false => exact .inl rfl
  | true =>
    refine .inr (Nat.lt_of_not_le fun hfk => ?_)
    obtain hlt | rfl := Nat.lt_or_eq_of_le hfk
    · exact hstanding.not_forgot f hdelivery.lt hlt
        (event_eq_forgot_iff.2 ⟨i, before, x, hdelivery.settled, hretry, hdigest⟩)
    · -- One turn cannot both ask and settle.
      obtain ⟨hwf, arrival, hsettling⟩ := hdelivery.settled
      obtain ⟨hwk, arrival', hasking, -⟩ := hchecks
      rw [← hwf, hwk, hasking] at hsettling
      cases hsettling

/-- A refusal is not worth another try, a breakdown is. -/
example : (Exchange.response 400 .empty).isRetryable = false ∧
    (Exchange.response 500 .empty).isRetryable = true := by
  decide +kernel

namespace Service

/-- **Duplicates under way.** Events take their turns in any order until all that arrived are
answered. One that is answered as a duplicate was told so when it asked. The latest one with its
digest that was let through before that was so within the window, had not been withdrawn by anybody,
and is either delivered with an exchange that is not worth another try, or had not dealt with its
last exchange by then. -/
theorem duplicate_while_undecided (ht : Transport.Retains service.transport)
    (hroot : service.home.root < r.contexts.size) (hnone : r.checker = none)
    (h : Interleaved service posts (service.opened r) n run)
    (hparent : ∀ k < n, run.stage k (run.who k) = .arriving → ∀ c,
      (posts (run.who k)).parent = some c → ((run.start k).context c).hasChecker =
        (DuplicateWindow.ofSettings service.home.settings).isSome)
    (hdone : ∀ i, run.stage n i = .arriving ∨ ∃ response, (run.stage n i).response? = some response)
    {m i : Nat} (hm : m ≤ n) {arrival : Arrival}
    (hduplicate : run.stage m i = .answering arrival .duplicate) :
    (∃ response, (run.stage n i).response? = some response ∧ response.status = 200 ∧
      response.body = "\x7b\"status\":\"duplicate\"\x7d".toUTF8) ∧
    ∃ k payload, k < m ∧ run.Checks k i payload true ∧
      ∃ j f before x, run.Delivery n j f (run.who j) before x ∧
        digestOf before = digestOf payload ∧
        DuplicateCache.Standing run.event (digestOf payload) (run.start j).clock.wall j k ∧
        (run.start k).clock.wall.toNat - (run.start j).clock.wall.toNat <
          min (service.home.settings.duplicateTimeout.toNat * 1000000) (UInt64.size - 1) ∧
        (x.isRetryable = false ∨ k < f) := by
  obtain ⟨k, payload, hkm, htold⟩ := h.checks_of_answering hm hduplicate
  have hk := Nat.lt_of_lt_of_le hkm hm
  obtain ⟨window, hwindow⟩ := h.window_of_duplicate ht hnone hk htold
  rw [hwindow] at hparent
  obtain ⟨-, hms, hcap⟩ := ofWindow_eq hwindow
  have hled := Interleaved.led_of_settings hwindow ht hroot h hparent
  constructor
  · obtain ⟨arrival, hstage⟩ | hresponse := h.duplicate_answer hk (Nat.le_refl n) htold
    · obtain ⟨response, hresponse⟩ := h.answered_of_checks hdone hk htold
      rw [hstage] at hresponse
      cases hresponse
    · exact hresponse
  · obtain ⟨j, s, hstanding, hlt⟩ := hled.standing_of_duplicate hms hcap hk
      (event_eq_checked_iff.2 ⟨i, payload, htold, rfl, rfl⟩)
    obtain ⟨other, before, hbefore, hdigest, rfl⟩ := event_eq_checked_iff.1 hstanding.admitted_eq
    obtain rfl := hbefore.1
    have hj := Nat.lt_trans hstanding.lt hk
    obtain ⟨response, hresponse⟩ := h.answered_of_checks hdone hj hbefore
    obtain ⟨f, x, hdelivery⟩ := h.exists_delivery hj hbefore hresponse
    exact ⟨k, payload, hkm, htold, j, f, before, x, hdelivery, hdigest, hstanding, hlt,
      hdelivery.kept_or_undecided hdigest hstanding htold⟩

/-- Two events with the same payload: the second one arrives, asks and is answered while the first
is being delivered, in vain. -/
def overtaken : Traffic Script :=
  .inOrder remembering again (fun k => [0, 0, 1, 1, 1, 0, 0, 0].getD k 0) (fun _ => .ofMillis 0)
    (remembering.opened (replying [.response 500 .empty]))

theorem interleaved_overtaken : Interleaved remembering again
    (remembering.opened (replying [.response 500 .empty])) 8 overtaken :=
  interleaved_inOrder ..

theorem overtaken_done (i : Nat) : overtaken.stage 8 i = .arriving ∨
    ∃ response, (overtaken.stage 8 i).response? = some response :=
  answered_inOrder (m := 2) (by decide) (by decide +kernel) i

/-- The second event is answered as a duplicate. -/
theorem overtaken_duplicate : overtaken.stage 4 1 = .answering ⟨0, 2⟩ .duplicate := by
  decide +kernel

/-- What the first event's delivery brings back is worth another try. -/
theorem overtaken_settles {f i : Nat} {payload : ByteArray} {x : Exchange} (hf : f < 8)
    (h : overtaken.Settles f i payload x) : f = 6 ∧ x.isRetryable = true := by
  obtain ⟨rfl, arrival, hstage⟩ := h
  have honly : ∀ f < 8, (overtaken.stage f (overtaken.who f)).rank = 3 → f = 6 := by
    decide +kernel
  obtain rfl := honly f hf (by rw [hstage]; rfl)
  have hsix : overtaken.stage 6 (overtaken.who 6) =
      .settling ⟨0, 1⟩ "p".toUTF8 (.response 500 .empty) := by decide +kernel
  rw [hsix] at hstage
  cases hstage
  exact ⟨rfl, rfl⟩

theorem duplicate_while_undecided_overtaken :
    remembering.home.root < (replying [.response 500 .empty]).contexts.size ∧
      (replying [.response 500 .empty]).checker = none ∧
      overtaken.stage 4 1 = .answering ⟨0, 2⟩ .duplicate ∧
      ∃ k j x, k < 4 ∧ j < k ∧ overtaken.Delivery 8 j 6 (overtaken.who j) "p".toUTF8 x := by
  have hroot : remembering.home.root < (replying [.response 500 .empty]).contexts.size := by decide
  have hnone : (replying [.response 500 .empty]).checker = none := rfl
  obtain ⟨-, k, payload, hk, -, j, f, before, x, hdelivery, -, hstanding, -⟩ :=
    duplicate_while_undecided Script.send_retains hroot hnone interleaved_overtaken
      (fun _ _ _ _ hc => nomatch hc) overtaken_done (by decide) overtaken_duplicate
  have hj := Nat.lt_trans hdelivery.lt hdelivery.lt_n
  have hfx := overtaken_settles hdelivery.lt_n hdelivery.settled
  obtain rfl := payload_of_again interleaved_overtaken hj hdelivery.accepted
  obtain rfl := hfx.1
  exact ⟨hroot, hnone, overtaken_duplicate, k, j, x, hk, hstanding.lt, hdelivery⟩

/-- In a run in which everything is answered and nothing arrives an event is answered as a
duplicate. -/
theorem duplicate_of_undelivered :
    Interleaved remembering again (remembering.opened (replying [.response 500 .empty])) 8
        overtaken ∧
      (∀ i, overtaken.stage 8 i = .arriving ∨
        ∃ response, (overtaken.stage 8 i).response? = some response) ∧
      overtaken.stage 4 1 = .answering ⟨0, 2⟩ .duplicate ∧
      (overtaken.stage 8 1).response?.map (fun response => (response.status, response.body)) =
        some (200, "\x7b\"status\":\"duplicate\"\x7d".toUTF8) ∧
      ∀ j f i payload x, overtaken.Delivery 8 j f i payload x → x.isRetryable = true := by
  refine ⟨interleaved_overtaken, overtaken_done, overtaken_duplicate, by decide +kernel, ?_⟩
  exact fun j f i payload x hdelivery => (overtaken_settles hdelivery.lt_n hdelivery.settled).2

end Service
end EventRelay
