import EventRelay.Proofs.Service.Traffic

/-!
# Deliveries of one payload that overlap

A payload can be let through again while an earlier delivery of it is still under way, when that
takes longer than the window. What the earlier one withdraws in the end is then the record of the
later one. This module says how far apart the deliveries of one payload are.

* `Delivered`, `Withdrawn`: the two ways in which a delivery ends. `Timely`: no delivery that is
  withdrawn takes as long as the window.
* `Interleaved.exists_withdrawal`: a digest that is let through twice within a window was withdrawn
  in between by an event that asked no later than the first of the two.
* `Interleaved.standing_of_timely`: with timely deliveries each event withdraws its own record.
* `Interleaved.apart_or_withdrawn`, `Interleaved.apart_of_timely`: how far two deliveries are apart.
* `delivered_apart`: the deliveries of a service are a window apart, unless a third one interferes.
  `delivered_at_once`: a run in which a third one does.
-/

namespace EventRelay

variable {σ : Type} {service : Service σ} {window : DuplicateWindow} {posts : Nat → Post}
  {r : Realm σ} {run : Traffic σ} {n : Nat} {d : String}

namespace Traffic

/-- In the first `n` turns an event is let through in the `j`-th, and its delivery brings back
something that is not worth another try. -/
def Delivered (run : Traffic σ) (n j i : Nat) (payload : ByteArray) : Prop :=
  ∃ f x, run.Delivery n j f i payload x ∧ x.isRetryable = false

/-- In the first `n` turns an event is let through in the `j`-th, its delivery brings back something
that is worth another try, and in the `f`-th the payload is forgotten. -/
def Withdrawn (run : Traffic σ) (n j f i : Nat) (payload : ByteArray) : Prop :=
  ∃ x, run.Delivery n j f i payload x ∧ x.isRetryable = true

/-- What is withdrawn is so less than a window after its event asked. -/
def Timely (run : Traffic σ) (windowMs : UInt64) (n : Nat) : Prop :=
  ∀ j f i payload, run.Withdrawn n j f i payload →
    (run.start f).clock.wall.toNat - (run.start j).clock.wall.toNat <
      min (windowMs.toNat * 1000000) (UInt64.size - 1)

theorem Delivery.event_eq {j f i : Nat} {payload : ByteArray} {x : Exchange}
    (h : run.Delivery n j f i payload x) :
    run.event j = some (.checked (digestOf payload) (run.start j).clock.wall false) :=
  event_eq_checked_iff.2 ⟨i, payload, h.accepted, rfl, rfl⟩

end Traffic

open Traffic

namespace Interleaved

section Deliveries

variable (h : Interleaved service posts r n run)
include h

/-- What is forgotten is withdrawn by an event that was let through. -/
theorem withdrawn_of_forgot {f : Nat} (hf : f < n) (hforgot : run.event f = some (.forgot d)) :
    ∃ j i payload, run.Withdrawn n j f i payload ∧ digestOf payload = d := by
  obtain ⟨i, payload, x, hsettles, hretry, hd⟩ := event_eq_forgot_iff.1 hforgot
  obtain ⟨j, hdelivery⟩ := h.delivery_of_settles hf hsettles
  exact ⟨j, i, payload, ⟨x, hdelivery, hretry⟩, hd⟩

end Deliveries

section Apart

variable {windowMs : UInt64} {capacity : Nat} {caches : Nat → DuplicateCache}
  (h : Interleaved service posts r n run)
  (hled : DuplicateCache.Led windowMs capacity n run.event caches) (hms : windowMs ≠ 0)
  (hcap : 0 < capacity) (hfits : DuplicateCache.Fits capacity n run.event)
  (hclock : ∀ j k, j ≤ k → k < n →
    (run.start j).clock.wall.toNat ≤ (run.start k).clock.wall.toNat)
include h hled hms hcap hfits hclock

/-- A digest that is let through twice within a window was withdrawn in between, by an event that
was let through no later than the first time. -/
theorem exists_withdrawal {j k : Nat} {s t : UInt64} (hjk : j < k) (hk : k < n)
    (hj : run.event j = some (.checked d s false))
    (hagain : run.event k = some (.checked d t false))
    (hlt : t.toNat - s.toNat < min (windowMs.toNat * 1000000) (UInt64.size - 1)) :
    ∃ m f i payload, run.Withdrawn n m f i payload ∧ digestOf payload = d ∧
      m ≤ j ∧ j < f ∧ f < k := by
  have hsteady : DuplicateCache.Steady n run.event := by
    intro a b hab hb _ _ u v _ _ hu hv
    obtain ⟨-, -, -, -, rfl⟩ := event_eq_checked_iff.1 hu
    obtain ⟨-, -, -, -, rfl⟩ := event_eq_checked_iff.1 hv
    exact hclock a b hab hb
  obtain ⟨f, hjf, hfk, hforgot, hnone⟩ :=
    hled.exists_first_forgot hms hcap hfits hsteady hjk hk hj hagain hlt
  obtain ⟨m, i, payload, hwithdrawn, rfl⟩ := h.withdrawn_of_forgot (Nat.lt_trans hfk hk) hforgot
  refine ⟨m, f, i, payload, hwithdrawn, rfl, Nat.le_of_not_lt fun hjm => ?_, hjf, hfk⟩
  obtain ⟨x, hdelivery, -⟩ := hwithdrawn
  exact hnone m hjm hdelivery.lt _ hdelivery.event_eq

/-- **Timely deliveries.** If whatever is withdrawn is so less than a window after its event asked,
then what an event withdraws is the record that it made itself: the digest was neither let through
again nor forgotten since. -/
theorem standing_of_timely (htimely : run.Timely windowMs n) {j f i : Nat} {payload : ByteArray}
    (hwithdrawn : run.Withdrawn n j f i payload) :
    DuplicateCache.Standing run.event (digestOf payload) (run.start j).clock.wall j f := by
  -- On the turn of the withdrawal: one that comes in between is earlier, and is known to withdraw
  -- its own record only.
  induction f using Nat.strongRecOn generalizing j i payload with
  | _ f ih =>
    obtain ⟨x, hdelivery, hretry⟩ := hwithdrawn
    have hf := hdelivery.lt_n
    -- Whoever withdraws the digest in between was let through later than this event.
    have hlater : ∀ m g l other, run.Withdrawn n m g l other → digestOf other = digestOf payload →
        j < g → g < f → j < m := by
      intro m g l other hother hd hjg hgf
      refine Nat.lt_of_not_le fun hmj => ?_
      obtain hlt | rfl := Nat.lt_or_eq_of_le hmj
      · have hstanding := ih g hgf hother
        rw [hd] at hstanding
        exact hstanding.not_readmitted j hlt hjg _ hdelivery.event_eq
      · obtain ⟨y, hother, -⟩ := hother
        obtain rfl : i = l := hdelivery.accepted.1.symm.trans hother.accepted.1
        exact absurd (h.delivery_unique hdelivery hother).2.1.symm (Nat.ne_of_lt hgf)
    -- To be let through again within the window takes a withdrawal in between, which is none of
    -- those.
    have hnever : ∀ m, j < m → m < f → ∀ u,
        run.event m ≠ some (.checked (digestOf payload) u false) := by
      intro m hjm hmf u hagain
      obtain ⟨-, -, -, -, rfl⟩ := event_eq_checked_iff.1 hagain
      have hmove := hclock m f (Nat.le_of_lt hmf) hf
      have hlt := htimely j f i payload ⟨x, hdelivery, hretry⟩
      obtain ⟨m', g, l, other, hother, hd, hmj, hjg, hgm⟩ :=
        exists_withdrawal h hled hms hcap hfits hclock hjm (Nat.lt_trans hmf hf)
          hdelivery.event_eq hagain (by omega)
      exact absurd (hlater m' g l other hother hd hjg (Nat.lt_trans hgm hmf)) (Nat.not_lt.2 hmj)
    refine ⟨hdelivery.lt, hdelivery.event_eq, hnever, fun g hjg hgf hforgot => ?_⟩
    obtain ⟨m, l, other, hother, hd⟩ := h.withdrawn_of_forgot (Nat.lt_trans hgf hf) hforgot
    have hjm := hlater m g l other hother hd hjg hgf
    obtain ⟨y, hother, -⟩ := hother
    exact hnever m hjm (Nat.lt_trans hother.lt hgf) _ (hd ▸ hother.event_eq)

/-- Two deliveries of one digest were let through a window apart, or another event, which was let
through before both, withdrew it in between. -/
theorem apart_or_withdrawn {j k i l : Nat} {before after : ByteArray}
    (hbefore : run.Delivered n j i before) (hafter : run.Delivered n k l after)
    (hd : digestOf after = digestOf before) (hjk : j < k) :
    min (windowMs.toNat * 1000000) (UInt64.size - 1) ≤
        (run.start k).clock.wall.toNat - (run.start j).clock.wall.toNat ∨
      ∃ m f o other, run.Withdrawn n m f o other ∧ digestOf other = digestOf before ∧
        m < j ∧ j < f ∧ f < k := by
  obtain ⟨e, x, hbefore, hx⟩ := hbefore
  obtain ⟨g, y, hafter, -⟩ := hafter
  refine (Nat.lt_or_ge _ _).symm.imp_right fun hlt => ?_
  obtain ⟨m, f, o, other, hwithdrawn, hod, hmj, hjf, hfk⟩ :=
    exists_withdrawal h hled hms hcap hfits hclock hjk (Nat.lt_trans hafter.lt hafter.lt_n)
      hbefore.event_eq (hd ▸ hafter.event_eq) hlt
  refine ⟨m, f, o, other, hwithdrawn, hod, Nat.lt_of_le_of_ne hmj ?_, hjf, hfk⟩
  -- The first of the two was delivered, so it withdrew nothing itself.
  rintro rfl
  obtain ⟨z, hother, hz⟩ := hwithdrawn
  obtain rfl : i = o := hbefore.accepted.1.symm.trans hother.accepted.1
  rw [(h.delivery_unique hbefore hother).2.2, hz] at hx
  cases hx

/-- With timely deliveries nobody interferes. -/
theorem apart_of_timely (htimely : run.Timely windowMs n) {j k i l : Nat}
    {before after : ByteArray} (hbefore : run.Delivered n j i before)
    (hafter : run.Delivered n k l after) (hd : digestOf after = digestOf before) (hjk : j < k) :
    min (windowMs.toNat * 1000000) (UInt64.size - 1) ≤
      (run.start k).clock.wall.toNat - (run.start j).clock.wall.toNat := by
  refine (apart_or_withdrawn h hled hms hcap hfits hclock hbefore hafter hd hjk).resolve_right ?_
  rintro ⟨m, f, o, other, hwithdrawn, hod, hmj, hjf, -⟩
  obtain ⟨e, x, hbefore, -⟩ := hbefore
  have hstanding := standing_of_timely h hled hms hcap hfits hclock htimely hwithdrawn
  exact hstanding.not_readmitted j hmj hjf _ (hod ▸ hbefore.event_eq)

end Apart

end Interleaved

namespace Service

/-- **Deliveries apart.** Events take their turns in any order, the clock does not run backwards,
and there is room for every digest that is asked about. Two deliveries with the same digest were
then let through at least a window apart, unless a third event with that digest, which was let
through before both, withdrew it in between. If whatever is withdrawn is so less than a window after
its event asked, then every event withdraws the record that it made itself, and the two are a window
apart. -/
theorem delivered_apart
    (hwindow : DuplicateWindow.ofSettings service.home.settings = some window)
    (ht : Transport.Retains service.transport)
    (hroot : service.home.root < r.contexts.size)
    (h : Interleaved service posts (service.opened r) n run)
    (hparent : ∀ k < n, run.stage k (run.who k) = .arriving → ∀ c,
      (posts (run.who k)).parent = some c → ((run.start k).context c).hasChecker = true)
    {digests : Finset String} (hfits : digests.card ≤ window.capacity.toNat)
    (hdigests : ∀ k < n, ∀ i payload duplicate, run.Checks k i payload duplicate →
      digestOf payload ∈ digests)
    (hclock : ∀ j k, j ≤ k → k < n →
      (run.start j).clock.wall.toNat ≤ (run.start k).clock.wall.toNat) :
    (∀ j i before k l after, run.Delivered n j i before → run.Delivered n k l after →
      digestOf after = digestOf before → j < k →
      min (service.home.settings.duplicateTimeout.toNat * 1000000) (UInt64.size - 1) ≤
          (run.start k).clock.wall.toNat - (run.start j).clock.wall.toNat ∨
        ∃ m f o other, run.Withdrawn n m f o other ∧ digestOf other = digestOf before ∧
          m < j ∧ j < f ∧ f < k) ∧
    (run.Timely service.home.settings.duplicateTimeout n →
      (∀ j f i payload, run.Withdrawn n j f i payload →
        DuplicateCache.Standing run.event (digestOf payload) (run.start j).clock.wall j f) ∧
      ∀ j i before k l after, run.Delivered n j i before → run.Delivered n k l after →
        digestOf after = digestOf before → j < k →
        min (service.home.settings.duplicateTimeout.toNat * 1000000) (UInt64.size - 1) ≤
          (run.start k).clock.wall.toNat - (run.start j).clock.wall.toNat) := by
  obtain ⟨-, hms, hcap⟩ := ofWindow_eq hwindow
  have hled := Interleaved.led_of_settings hwindow ht hroot h hparent
  have hroom : DuplicateCache.Fits window.capacity.toNat n run.event := by
    refine ⟨digests, hfits, fun k hk d t duplicate he => ?_⟩
    obtain ⟨i, payload, hchecks, rfl, -⟩ := event_eq_checked_iff.1 he
    exact hdigests k hk i payload duplicate hchecks
  refine ⟨fun j i before k l after => h.apart_or_withdrawn hled hms hcap hroom hclock,
    fun htimely => ⟨fun j f i payload => ?_, fun j i before k l after => ?_⟩⟩
  · exact h.standing_of_timely hled hms hcap hroom hclock htimely
  · exact h.apart_of_timely hled hms hcap hroom hclock htimely

/-- Three events with the same payload. The first one is let through; a minute later, before it is
sent, the second one is let through and delivered; then the first one fails and withdraws the
payload, and the third one is let through and delivered. -/
def overtaking : Traffic Script :=
  .inOrder remembering again (fun k => [0, 0, 1, 1, 1, 1, 1, 0, 0, 0, 2, 2, 2, 2, 2].getD k 0)
    (fun k => .ofMillis (if k = 2 then 60000 else 0))
    (remembering.opened
      (replying [.response 200 .empty, .response 500 .empty, .response 200 .empty]))

theorem interleaved_overtaking : Interleaved remembering again
    (remembering.opened
      (replying [.response 200 .empty, .response 500 .empty, .response 200 .empty]))
    15 overtaking :=
  interleaved_inOrder ..

theorem overtaking_clock (j k : Nat) (hjk : j ≤ k) (hk : k < 15) :
    (overtaking.start j).clock.wall.toNat ≤ (overtaking.start k).clock.wall.toNat := by
  have hwall : ∀ k < 15, (overtaking.start k).clock.wall.toNat =
      if k < 2 then 0 else 60000000000 := by decide +kernel
  rw [hwall j (Nat.lt_of_le_of_lt hjk hk), hwall k hk]
  split <;> split <;> omega

theorem overtaking_second : overtaking.Delivered 15 3 1 "p".toUTF8 :=
  ⟨5, .response 200 .empty, ⟨⟨rfl, ⟨60000000000, 2⟩, by decide +kernel, by decide +kernel⟩,
    ⟨rfl, ⟨60000000000, 2⟩, by decide +kernel⟩, by decide, by decide⟩, by decide⟩

theorem overtaking_third : overtaking.Delivered 15 11 2 "p".toUTF8 :=
  ⟨13, .response 200 .empty, ⟨⟨rfl, ⟨60000000000, 5⟩, by decide +kernel, by decide +kernel⟩,
    ⟨rfl, ⟨60000000000, 5⟩, by decide +kernel⟩, by decide, by decide⟩, by decide⟩

theorem delivered_apart_overtaking :
    DuplicateWindow.ofSettings remembering.home.settings = some minute ∧
      overtaking.Delivered 15 3 1 "p".toUTF8 ∧ overtaking.Delivered 15 11 2 "p".toUTF8 ∧
      ∃ m f o other, overtaking.Withdrawn 15 m f o other ∧
        digestOf other = digestOf "p".toUTF8 ∧ m < 3 ∧ 3 < f ∧ f < 11 := by
  have hwindow : DuplicateWindow.ofSettings remembering.home.settings = some minute := by decide
  have hroot : remembering.home.root < (replying [.response 200 .empty, .response 500 .empty,
      .response 200 .empty]).contexts.size := by decide
  have hclose : ¬ min (remembering.home.settings.duplicateTimeout.toNat * 1000000)
      (UInt64.size - 1) ≤ (overtaking.start 11).clock.wall.toNat -
        (overtaking.start 3).clock.wall.toNat := by decide +kernel
  obtain ⟨happart, -⟩ := delivered_apart hwindow Script.send_retains hroot interleaved_overtaking
    (fun _ _ _ _ hc => nomatch hc) (Finset.card_singleton (digestOf "p".toUTF8) ▸ by decide)
    (fun k hk i payload duplicate h =>
      Finset.mem_singleton.2 (congrArg digestOf (payload_of_again interleaved_overtaking hk h)))
    overtaking_clock
  exact ⟨hwindow, overtaking_second, overtaking_third,
    (happart 3 1 _ 11 2 _ overtaking_second overtaking_third rfl (by decide)).resolve_left hclose⟩

/-- In a run in which everything is answered, with room for the one digest and a clock that does not
run backwards, a payload is delivered twice at one reading of the clock. -/
theorem delivered_at_once :
    Interleaved remembering again (remembering.opened (replying [.response 200 .empty,
        .response 500 .empty, .response 200 .empty])) 15 overtaking ∧
      (∀ i, overtaking.stage 15 i = .arriving ∨
        ∃ response, (overtaking.stage 15 i).response? = some response) ∧
      (∀ k < 15, ∀ i payload duplicate, overtaking.Checks k i payload duplicate →
        payload = "p".toUTF8) ∧
      (∀ j k, j ≤ k → k < 15 →
        (overtaking.start j).clock.wall.toNat ≤ (overtaking.start k).clock.wall.toNat) ∧
      overtaking.Delivered 15 3 1 "p".toUTF8 ∧ overtaking.Delivered 15 11 2 "p".toUTF8 ∧
      (overtaking.start 11).clock.wall = (overtaking.start 3).clock.wall := by
  refine ⟨interleaved_overtaking, answered_inOrder (m := 3) (by decide) (by decide +kernel),
    fun k hk i payload duplicate => payload_of_again interleaved_overtaking hk, overtaking_clock,
    overtaking_second, overtaking_third, by decide +kernel⟩

end Service
end EventRelay
