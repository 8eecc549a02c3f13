import Mathlib.Data.Finset.Card
import Mathlib.Data.Finset.Union
import EventRelay.Proofs.Dedup.Recency

/-!
# A cache from which payloads are withdrawn

Who lets a payload through may later learn that it did not arrive, and then withdraws its digest.
This module follows a sequence of payloads each of which is treated in one of four ways, and says
which of them are suppressed.

* `Treatment`: what is done about a payload, and `Treatment.Leads`, what that does to the cache.
* `Treated`: the caches through which a sequence of treatments leads.
* `Treated.suppressed_iff`: a payload is suppressed by the history.
* `Treated.suppressed_iff_kept`: when there is room for all digests, it is suppressed exactly when
  it was kept within the window and not withdrawn since.
* `Treated.suppressed_iff_of_kept`, `Treated.not_suppressed_of_withdrawn`: what happens to a payload
  the next time.
-/

namespace EventRelay
namespace DuplicateCache

/-- How the question about a payload ends: it is a duplicate, or it is let through and remembered,
or let through and then withdrawn. -/
inductive Ending where
  | suppressed
  | kept
  | withdrawn
  deriving DecidableEq, Repr

/-- What is done about a payload: nothing, or its digest is asked about at a time. -/
inductive Treatment where
  | skipped
  | asked (digest : String) (time : UInt64) (ending : Ending)
  deriving DecidableEq, Repr

namespace Treatment

/-- What a treatment adds to a history. -/
def events : Treatment → List Event
  | skipped => []
  | asked d t .suppressed => [.checked d t true]
  | asked d t .kept => [.checked d t false]
  | asked d t .withdrawn => [.forgot d, .checked d t false]

/-- A treatment leads from one cache to another. -/
def Leads (cache cache' : DuplicateCache) : Treatment → Prop
  | skipped => cache' = cache
  | asked d t .suppressed => cache.check d t = (true, cache')
  | asked d t .kept => cache.check d t = (false, cache')
  | asked d t .withdrawn => ∃ held, cache.check d t = (false, held) ∧ cache' = held.forget d

/-- The digest that is asked about, if there is one. -/
def digests : Treatment → Finset String
  | skipped => ∅
  | asked d _ _ => {d}

theorem mem_digests_iff {treatment : Treatment} {d : String} :
    d ∈ treatment.digests ↔ ∃ t e, treatment = .asked d t e := by
  cases treatment with
  | skipped => simp [digests]
  | asked digest time ending => simp [digests, eq_comm]

/-- The history of the treatments before one. -/
def eventsBefore (treatments : Nat → Treatment) : Nat → List Event
  | 0 => []
  | i + 1 => (treatments i).events ++ eventsBefore treatments i

/-- The digests asked about before a treatment. -/
def digestsBefore (treatments : Nat → Treatment) (i : Nat) : Finset String :=
  (Finset.range i).biUnion fun k => (treatments k).digests

theorem digestsBefore_mono (treatments : Nat → Treatment) {i n : Nat} (h : i ≤ n) :
    digestsBefore treatments i ⊆ digestsBefore treatments n :=
  Finset.biUnion_subset_biUnion_of_subset_left _ (Finset.range_mono h)

theorem mem_digestsBefore {treatments : Nat → Treatment} {i n : Nat} (hi : i < n) {d : String}
    {t : UInt64} {e : Ending} (h : treatments i = .asked d t e) :
    d ∈ digestsBefore treatments n := by
  rw [digestsBefore, Finset.mem_biUnion]
  exact ⟨i, Finset.mem_range.2 hi, mem_digests_iff.2 ⟨t, e, h⟩⟩

/-! ## Treatments of other digests -/

variable {capacity : Nat} {d e : String} {t : UInt64} {past : List Event}

theorem admitted_events_of_ne (h : e ≠ d) (ending : Ending) :
    admitted d ((asked e t ending).events ++ past) = admitted d past := by
  cases ending <;> simp [events, admitted, h]

/-- A digest that is not crowded out by another outlasts the treatment of that one. -/
theorem outlasts_events_of_ne (h : e ≠ d) (hcard : (insert e (crowd d past)).card < capacity)
    (ending : Ending) :
    Outlasts capacity d ((asked e t ending).events ++ past) ↔ Outlasts capacity d past := by
  cases ending <;> simp [events, Outlasts, h, hcard]

/-- Only other digests that were asked about stand in front of one. -/
theorem crowd_subset (treatments : Nat → Treatment) (d : String) (i : Nat) :
    crowd d (eventsBefore treatments i) ⊆ (digestsBefore treatments i).erase d := by
  induction i with
  | zero => exact Finset.empty_subset _
  | succ i ih =>
    have hmono : crowd d (eventsBefore treatments i) ⊆
        (digestsBefore treatments (i + 1)).erase d :=
      ih.trans (Finset.erase_subset_erase d (digestsBefore_mono treatments (Nat.le_succ i)))
    rw [eventsBefore]
    cases h : treatments i with
    | skipped => exact hmono
    | asked e t ending =>
      have hmem := mem_digestsBefore (Nat.lt_succ_self i) h
      have hcons : crowd d (.checked e t true :: eventsBefore treatments i) ⊆
          (digestsBefore treatments (i + 1)).erase d := by
        rw [crowd]
        split
        · exact Finset.empty_subset _
        · next he => exact Finset.insert_subset (Finset.mem_erase.2 ⟨he, hmem⟩) hmono
      cases ending with
      | suppressed => exact hcons
      | kept => exact hcons
      | withdrawn => exact (Finset.erase_subset _ _).trans hcons

/-- With room for all digests, none is ever crowded out. -/
theorem card_insert_crowd_lt {treatments : Nat → Treatment} {i n : Nat} (hi : i ≤ n)
    (hfits : (digestsBefore treatments n).card ≤ capacity) (hd : d ∈ digestsBefore treatments n)
    (he : e ∈ digestsBefore treatments n) (h : e ≠ d) :
    (insert e (crowd d (eventsBefore treatments i))).card < capacity := by
  have hsub : insert e (crowd d (eventsBefore treatments i)) ⊆
      (digestsBefore treatments n).erase d :=
    Finset.insert_subset (Finset.mem_erase.2 ⟨h, he⟩) ((crowd_subset treatments d i).trans
      (Finset.erase_subset_erase d (digestsBefore_mono treatments hi)))
  have hpos : 0 < (digestsBefore treatments n).card := Finset.card_pos.2 ⟨d, hd⟩
  have hcard := Finset.card_le_card hsub
  rw [Finset.card_erase_of_mem hd] at hcard
  omega

end Treatment

open Treatment

/-- The caches through which treatments lead from an empty one. -/
structure Treated (windowMs : UInt64) (capacity n : Nat) (treatments : Nat → Treatment)
    (caches : Nat → DuplicateCache) : Prop where
  first : caches 0 = .new windowMs capacity
  leads : ∀ k < n, (treatments k).Leads (caches k) (caches (k + 1))

namespace Treated

variable {windowMs : UInt64} {capacity n : Nat} {treatments : Nat → Treatment}
  {caches : Nat → DuplicateCache}

theorem reached (h : Treated windowMs capacity n treatments caches) {i : Nat} (hi : i ≤ n) :
    Reached windowMs capacity (eventsBefore treatments i) (caches i) := by
  induction i with
  | zero =>
    rw [h.first]
    exact .new
  | succ i ih =>
    have hpast := ih (Nat.le_of_succ_le hi)
    have hstep := h.leads i hi
    rw [eventsBefore]
    cases ht : treatments i with
    | skipped =>
      rw [ht] at hstep
      rw [show caches (i + 1) = caches i from hstep]
      exact hpast
    | asked d t ending =>
      rw [ht] at hstep
      have hcheck := hpast.check d t
      cases ending with
      | suppressed => rwa [show (caches i).check d t = _ from hstep] at hcheck
      | kept => rwa [show (caches i).check d t = _ from hstep] at hcheck
      | withdrawn =>
        obtain ⟨held, hheld, he⟩ := hstep
        rw [hheld] at hcheck
        rw [he]
        exact .forget d hcheck

/-- The cache is asked, and its answer decides. -/
theorem check_eq (h : Treated windowMs capacity n treatments caches) {i : Nat} (hi : i < n)
    {d : String} {t : UInt64} {ending : Ending} (ht : treatments i = .asked d t ending) :
    ((caches i).check d t).1 = true ↔ ending = .suppressed := by
  have hstep := h.leads i hi
  rw [ht] at hstep
  cases ending with
  | suppressed => simp [show (caches i).check d t = _ from hstep]
  | kept => simp [show (caches i).check d t = _ from hstep]
  | withdrawn =>
    obtain ⟨held, hheld, -⟩ := hstep
    simp [hheld]

/-- A payload is suppressed exactly when its digest outlasts the history and was admitted within the
window. -/
theorem suppressed_iff (h : Treated windowMs capacity n treatments caches) (hw : windowMs ≠ 0)
    (hc : 0 < capacity) {i : Nat} (hi : i < n) {d : String} {t : UInt64} {ending : Ending}
    (ht : treatments i = .asked d t ending) :
    ending = .suppressed ↔ Outlasts capacity d (eventsBefore treatments i) ∧
      ∃ s, admitted d (eventsBefore treatments i) = some s ∧
        t.toNat - s.toNat < min (windowMs.toNat * 1000000) (UInt64.size - 1) :=
  (h.check_eq hi ht).symm.trans ((h.reached (Nat.le_of_lt hi)).check_eq_true_iff hw hc d t)

/-! ## The next time -/

/-- Before `i` a digest was kept at a time, and not let through again since. -/
def LatestKept (treatments : Nat → Treatment) (d : String) (s : UInt64) (i : Nat) : Prop :=
  ∃ j < i, treatments j = .asked d s .kept ∧
    ∀ k, j < k → k < i → ∀ u e, treatments k = .asked d u e → e = .suppressed

/-- What suppresses a payload or is not about it changes nothing about when it was kept. -/
theorem latestKept_succ {treatments : Nat → Treatment} {d : String} {s : UInt64}
    {i : Nat} (h : ∀ u e, treatments i = .asked d u e → e = .suppressed) :
    LatestKept treatments d s (i + 1) ↔ LatestKept treatments d s i := by
  constructor
  · rintro ⟨j, hj, hkept, hlast⟩
    have hji : j ≠ i := by
      rintro rfl
      cases h _ _ hkept
    exact ⟨j, by omega, hkept, fun k h₁ h₂ => hlast k h₁ (by omega)⟩
  · rintro ⟨j, hj, hkept, hlast⟩
    refine ⟨j, by omega, hkept, fun k h₁ h₂ => ?_⟩
    rcases Nat.lt_succ_iff_lt_or_eq.1 h₂ with hk | rfl
    · exact hlast k h₁ hk
    · exact h

/-- What lets a payload through decides by itself when it was kept. -/
theorem latestKept_succ_of_asked {treatments : Nat → Treatment} {d : String} {s t : UInt64}
    {e : Ending} {i : Nat} (h : treatments i = .asked d t e) (he : e ≠ .suppressed) :
    LatestKept treatments d s (i + 1) ↔ t = s ∧ e = .kept := by
  constructor
  · rintro ⟨j, hj, hkept, hlast⟩
    have hji : j = i := by
      by_contra hne
      exact he (hlast i (by omega) (by omega) t e h)
    subst hji
    rw [h] at hkept
    cases hkept
    exact ⟨rfl, rfl⟩
  · rintro ⟨rfl, rfl⟩
    exact ⟨i, Nat.lt_succ_self i, h, by omega⟩

/-- With room for all digests, one is held since the latest time at which it was kept, unless it was
withdrawn since. -/
theorem held_iff_latestKept (h : Treated windowMs capacity n treatments caches)
    (hw : windowMs ≠ 0) (hc : 0 < capacity) (hfits : (digestsBefore treatments n).card ≤ capacity)
    {d : String} (hd : d ∈ digestsBefore treatments n) (s : UInt64) {i : Nat} (hi : i ≤ n) :
    Outlasts capacity d (eventsBefore treatments i) ∧
      admitted d (eventsBefore treatments i) = some s ↔ LatestKept treatments d s i := by
  induction i with
  | zero =>
    refine ⟨fun hout => hout.1.elim, ?_⟩
    rintro ⟨j, hj, -⟩
    omega
  | succ i ih =>
    have ih := ih (Nat.le_of_succ_le hi)
    cases ht : treatments i with
    | skipped =>
      rw [latestKept_succ (by rw [ht]; intro u e he; cases he), ← ih, eventsBefore, ht]
      rfl
    | asked e t ending =>
      by_cases he : e = d
      · subst he
        cases ending with
        | suppressed =>
          -- The digest was held, for else it would not be a duplicate.
          have hout := ((h.suppressed_iff hw hc hi ht).1 rfl).1
          rw [latestKept_succ (by rw [ht]; intro u e he; cases he; rfl), ← ih,
            eventsBefore, ht]
          exact ⟨fun hs => ⟨hout, hs.2⟩, fun hs => ⟨.inl rfl, hs.2⟩⟩
        | kept =>
          rw [latestKept_succ_of_asked ht (by simp), eventsBefore, ht]
          simp [events, Outlasts, admitted]
        | withdrawn =>
          rw [latestKept_succ_of_asked ht (by simp), eventsBefore, ht]
          simp [events, Outlasts]
      · have hroom := card_insert_crowd_lt (Nat.le_of_succ_le hi) hfits hd
          (mem_digestsBefore hi ht) he
        rw [latestKept_succ (by rw [ht]; intro u e' he'; cases he'; exact absurd rfl he),
          ← ih, eventsBefore, ht, outlasts_events_of_ne he hroom, admitted_events_of_ne he]

/-- **Room for all.** A payload is suppressed exactly when the latest time it was let through it was
kept, within the window. -/
theorem suppressed_iff_kept (h : Treated windowMs capacity n treatments caches)
    (hw : windowMs ≠ 0) (hc : 0 < capacity) (hfits : (digestsBefore treatments n).card ≤ capacity)
    {i : Nat} (hi : i < n) {d : String} {t : UInt64} {ending : Ending}
    (ht : treatments i = .asked d t ending) :
    ending = .suppressed ↔ ∃ j < i, ∃ s, treatments j = .asked d s .kept ∧
      (∀ k, j < k → k < i → ∀ u e, treatments k = .asked d u e → e = .suppressed) ∧
      t.toNat - s.toNat < min (windowMs.toNat * 1000000) (UInt64.size - 1) := by
  have hheld := fun s =>
    h.held_iff_latestKept hw hc hfits (mem_digestsBefore hi ht) s (Nat.le_of_lt hi)
  rw [h.suppressed_iff hw hc hi ht]
  constructor
  · rintro ⟨hout, s, hs, hlt⟩
    obtain ⟨j, hj, hkept, hlast⟩ := (hheld s).1 ⟨hout, hs⟩
    exact ⟨j, hj, s, hkept, hlast, hlt⟩
  · rintro ⟨j, hj, s, hkept, hlast, hlt⟩
    obtain ⟨hout, hs⟩ := (hheld s).2 ⟨j, hj, hkept, hlast⟩
    exact ⟨hout, s, hs, hlt⟩

/-- What is not about a digest changes nothing about when it was let through. -/
theorem admitted_of_untreated {d : String} {i j : Nat} (hij : i ≤ j)
    (hnone : ∀ k, i ≤ k → k < j → ∀ u e, treatments k ≠ .asked d u e) :
    admitted d (eventsBefore treatments j) = admitted d (eventsBefore treatments i) := by
  induction j, hij using Nat.le_induction with
  | base => rfl
  | succ j hij ih =>
    rw [← ih fun k h₁ h₂ => hnone k h₁ (by omega), eventsBefore]
    cases ht : treatments j with
    | skipped => rfl
    | asked e t ending =>
      refine admitted_events_of_ne ?_ ending
      rintro rfl
      exact hnone j hij (Nat.lt_succ_self j) t ending ht

/-- A digest that does not outlast a history does not outlast what is not about it. -/
theorem not_outlasts_of_untreated {d : String} {i j : Nat} (hij : i ≤ j)
    (hnone : ∀ k, i ≤ k → k < j → ∀ u e, treatments k ≠ .asked d u e)
    (hout : ¬ Outlasts capacity d (eventsBefore treatments i)) :
    ¬ Outlasts capacity d (eventsBefore treatments j) := by
  induction j, hij using Nat.le_induction with
  | base => exact hout
  | succ j hij ih =>
    have ih := ih fun k h₁ h₂ => hnone k h₁ (by omega)
    rw [eventsBefore]
    cases ht : treatments j with
    | skipped => exact ih
    | asked e t ending =>
      have he : e ≠ d := by
        rintro rfl
        exact hnone j hij (Nat.lt_succ_self j) t ending ht
      cases ending <;> simp [events, Outlasts, he, ih]

/-- **Kept.** A payload that was kept is suppressed the next time, if that is within the window and
its digest was not crowded out. -/
theorem suppressed_iff_of_kept (h : Treated windowMs capacity n treatments caches)
    (hw : windowMs ≠ 0) (hc : 0 < capacity) {i j : Nat} (hij : i < j) (hj : j < n) {d : String}
    {s t : UInt64} {ending : Ending} (hi : treatments i = .asked d s .kept)
    (hnone : ∀ k, i < k → k < j → ∀ u e, treatments k ≠ .asked d u e)
    (ht : treatments j = .asked d t ending) :
    ending = .suppressed ↔ Outlasts capacity d (eventsBefore treatments j) ∧
      t.toNat - s.toNat < min (windowMs.toNat * 1000000) (UInt64.size - 1) := by
  have hadmitted : admitted d (eventsBefore treatments j) = some s := by
    rw [admitted_of_untreated hij hnone, eventsBefore, hi]
    simp [events, admitted]
  rw [h.suppressed_iff hw hc hj ht, hadmitted]
  simp

/-- **Withdrawn.** A payload that was withdrawn is let through the next time. -/
theorem not_suppressed_of_withdrawn (h : Treated windowMs capacity n treatments caches)
    (hw : windowMs ≠ 0) (hc : 0 < capacity) {i j : Nat} (hij : i < j) (hj : j < n) {d : String}
    {s t : UInt64} {ending : Ending} (hi : treatments i = .asked d s .withdrawn)
    (hnone : ∀ k, i < k → k < j → ∀ u e, treatments k ≠ .asked d u e)
    (ht : treatments j = .asked d t ending) : ending ≠ .suppressed := by
  intro hsup
  refine not_outlasts_of_untreated hij hnone ?_ ((h.suppressed_iff hw hc hj ht).1 hsup).1
  rw [eventsBefore, hi]
  exact fun hout => hout.1 rfl

end Treated
end DuplicateCache
end EventRelay
