import Mathlib.Data.Finset.Card
import Mathlib.Data.Nat.Find
import EventRelay.Proofs.Dedup.Recency

/-!
# Checks and forgettings in any order

Several callers share a cache: each asks about a payload, and some have it forgotten later, in
whatever order their steps fall. This module says what one of them is told, by what was done before,
whoever did it.

* `Event.Leads`: what an event does to the cache. `Led`: the caches through which checks and
  forgettings lead, by their numbers.
* `Standing`: a digest was let through, and was neither let through again nor forgotten since.
* `Led.standing_of_duplicate`: what is a duplicate was let through within the window, and that
  stands.
* `Led.duplicate_iff`: with room for all digests, that is what makes a duplicate.
* `Led.exists_forgot`: a digest that is let through twice within a window was forgotten in between.
-/

namespace EventRelay
namespace DuplicateCache

/-- What is done at one number, if anything, leads from one cache to another. -/
def Event.Leads (cache cache' : DuplicateCache) : Option Event → Prop
  | none => cache' = cache
  | some (.checked d t duplicate) => cache.check d t = (duplicate, cache')
  | some (.forgot d) => cache' = cache.forget d

/-- The first `n` events lead from an empty cache through the given ones; at some numbers nothing is
done. -/
structure Led (windowMs : UInt64) (capacity n : Nat) (events : Nat → Option Event)
    (caches : Nat → DuplicateCache) : Prop where
  first : caches 0 = .new windowMs capacity
  next : ∀ k < n, Event.Leads (caches k) (caches (k + 1)) (events k)

/-- The history of the events before a number. -/
def historyOf (events : Nat → Option Event) : Nat → List Event
  | 0 => []
  | k + 1 => (events k).toList ++ historyOf events k

/-- Before the `k`-th event a digest was let through by the `j`-th one, at a time, and since then it
was neither let through again nor forgotten. -/
structure Standing (events : Nat → Option Event) (d : String) (s : UInt64) (j k : Nat) : Prop where
  lt : j < k
  admitted_eq : events j = some (.checked d s false)
  not_readmitted : ∀ i, j < i → i < k → ∀ u, events i ≠ some (.checked d u false)
  not_forgot : ∀ i, j < i → i < k → events i ≠ some (.forgot d)

/-- There is room for every digest that is asked about. -/
def Fits (capacity n : Nat) (events : Nat → Option Event) : Prop :=
  ∃ digests : Finset String, digests.card ≤ capacity ∧
    ∀ k < n, ∀ d t duplicate, events k = some (.checked d t duplicate) → d ∈ digests

/-- The clock does not run backwards from check to check. -/
def Steady (n : Nat) (events : Nat → Option Event) : Prop :=
  ∀ j k, j ≤ k → k < n → ∀ d e s t a b, events j = some (.checked d s a) →
    events k = some (.checked e t b) → s.toNat ≤ t.toNat

variable {windowMs : UInt64} {capacity n : Nat} {events : Nat → Option Event}
  {caches : Nat → DuplicateCache} {d : String} {s t : UInt64} {j k : Nat}

theorem Standing.self (h : events j = some (.checked d s false)) :
    Standing events d s j (j + 1) :=
  ⟨Nat.lt_succ_self j, h, fun i h₁ h₂ => by omega, fun i h₁ h₂ => by omega⟩

/-- What stands is not touched by what neither lets the digest through nor forgets it. -/
theorem Standing.succ (h : Standing events d s j k)
    (hpassed : ∀ u, events k ≠ some (.checked d u false)) (hforget : events k ≠ some (.forgot d)) :
    Standing events d s j (k + 1) where
  lt := Nat.lt_succ_of_lt h.lt
  admitted_eq := h.admitted_eq
  not_readmitted i h₁ h₂ := by
    obtain hlt | rfl := Nat.lt_succ_iff_lt_or_eq.1 h₂
    · exact h.not_readmitted i h₁ hlt
    · exact hpassed
  not_forgot i h₁ h₂ := by
    obtain hlt | rfl := Nat.lt_succ_iff_lt_or_eq.1 h₂
    · exact h.not_forgot i h₁ hlt
    · exact hforget

namespace Led

theorem reached (h : Led windowMs capacity n events caches) (hk : k ≤ n) :
    Reached windowMs capacity (historyOf events k) (caches k) := by
  induction k with
  | zero =>
    rw [h.first]
    exact .new
  | succ k ih =>
    have hpast := ih (Nat.le_of_succ_le hk)
    have hnext := h.next k hk
    rw [historyOf]
    cases he : events k with
    | none =>
      rw [he] at hnext
      rw [show caches (k + 1) = caches k from hnext]
      exact hpast
    | some event =>
      rw [he] at hnext
      cases event with
      | checked d t duplicate =>
        have hcheck := hpast.check d t
        rwa [show (caches k).check d t = (duplicate, caches (k + 1)) from hnext] at hcheck
      | forgot d =>
        rw [show caches (k + 1) = (caches k).forget d from hnext]
        exact hpast.forget d

/-- The answer of a check, by the history before it. -/
theorem duplicate_iff_outlasts (h : Led windowMs capacity n events caches) (hw : windowMs ≠ 0)
    (hc : 0 < capacity) (hk : k < n) {duplicate : Bool}
    (he : events k = some (.checked d t duplicate)) :
    duplicate = true ↔ Outlasts capacity d (historyOf events k) ∧
      ∃ s, admitted d (historyOf events k) = some s ∧
        t.toNat - s.toNat < min (windowMs.toNat * 1000000) (UInt64.size - 1) := by
  have hnext := h.next k hk
  rw [he] at hnext
  rw [← (h.reached (Nat.le_of_lt hk)).check_eq_true_iff hw hc,
    show (caches k).check d t = (duplicate, caches (k + 1)) from hnext]

/-- What outlasts the history was let through, and that stands. -/
theorem standing_of_outlasts (h : Led windowMs capacity n events caches) (hw : windowMs ≠ 0)
    (hc : 0 < capacity) (hk : k ≤ n) (hout : Outlasts capacity d (historyOf events k))
    (hs : admitted d (historyOf events k) = some s) : ∃ j, Standing events d s j k := by
  induction k with
  | zero => exact hout.elim
  | succ k ih =>
    have ih := ih (Nat.le_of_succ_le hk)
    rw [historyOf] at hout hs
    cases he : events k with
    | none =>
      rw [he] at hout hs
      obtain ⟨j, hj⟩ := ih hout hs
      exact ⟨j, hj.succ (by simp [he]) (by simp [he])⟩
    | some event =>
      rw [he] at hout hs
      cases event with
      | forgot e =>
        obtain ⟨hne, hout⟩ := hout
        obtain ⟨j, hj⟩ := ih hout hs
        exact ⟨j, hj.succ (by simp [he]) (by simpa [he] using hne)⟩
      | checked e u duplicate =>
        by_cases hed : e = d
        · subst hed
          cases duplicate with
          | false =>
            have hus : u = s := by simpa [admitted] using hs
            subst hus
            exact ⟨k, .self he⟩
          | true =>
            -- The answer itself shows that the digest outlasts what was before.
            have hbefore := ((h.duplicate_iff_outlasts hw hc hk he).1 rfl).1
            obtain ⟨j, hj⟩ := ih hbefore hs
            exact ⟨j, hj.succ (by simp [he]) (by simp [he])⟩
        · obtain ⟨hout, -⟩ := hout.resolve_left hed
          have hs' : admitted d (historyOf events k) = some s := by
            cases duplicate <;> simpa [admitted, hed] using hs
          obtain ⟨j, hj⟩ := ih hout hs'
          exact ⟨j, hj.succ (by simp [he, hed]) (by simp [he])⟩

/-- **Duplicates.** What is a duplicate was let through before, within the window, and was neither
let through again nor forgotten since. -/
theorem standing_of_duplicate (h : Led windowMs capacity n events caches) (hw : windowMs ≠ 0)
    (hc : 0 < capacity) (hk : k < n) (he : events k = some (.checked d t true)) :
    ∃ j s, Standing events d s j k ∧
      t.toNat - s.toNat < min (windowMs.toNat * 1000000) (UInt64.size - 1) := by
  obtain ⟨hout, s, hs, hlt⟩ := (h.duplicate_iff_outlasts hw hc hk he).1 rfl
  obtain ⟨j, hj⟩ := h.standing_of_outlasts hw hc (Nat.le_of_lt hk) hout hs
  exact ⟨j, s, hj, hlt⟩

/-! ## Room for all -/

/-- Only other digests that were asked about stand in front of one. -/
theorem crowd_historyOf {digests : Finset String}
    (hdigests : ∀ k < n, ∀ d t duplicate, events k = some (.checked d t duplicate) → d ∈ digests)
    (d : String) (hk : k ≤ n) : crowd d (historyOf events k) ⊆ digests.erase d := by
  induction k with
  | zero => exact Finset.empty_subset _
  | succ k ih =>
    have ih := ih (Nat.le_of_succ_le hk)
    rw [historyOf]
    cases he : events k with
    | none => exact ih
    | some event =>
      cases event with
      | forgot e => exact (Finset.erase_subset _ _).trans ih
      | checked e u duplicate =>
        show crowd d (.checked e u duplicate :: historyOf events k) ⊆ _
        rw [crowd]
        split
        · exact Finset.empty_subset _
        · next hne =>
          exact Finset.insert_subset (Finset.mem_erase.2 ⟨hne, hdigests k hk e u duplicate he⟩) ih

/-- With room for all digests, what stands outlasts the history. -/
theorem outlasts_of_standing (hfits : Fits capacity n events) (hk : k ≤ n)
    (h : Standing events d s j k) :
    Outlasts capacity d (historyOf events k) ∧ admitted d (historyOf events k) = some s := by
  obtain ⟨digests, hcard, hdigests⟩ := hfits
  induction k with
  | zero => exact absurd h.lt (Nat.not_lt_zero j)
  | succ k ih =>
    rw [historyOf]
    obtain hlt | rfl := Nat.lt_succ_iff_lt_or_eq.1 h.lt
    · have hstill : Standing events d s j k :=
        ⟨hlt, h.admitted_eq, fun i h₁ h₂ => h.not_readmitted i h₁ (by omega),
          fun i h₁ h₂ => h.not_forgot i h₁ (by omega)⟩
      obtain ⟨hout, hs⟩ := ih (Nat.le_of_succ_le hk) hstill
      have hpassed := h.not_readmitted k hlt (Nat.lt_succ_self k)
      have hforget := h.not_forgot k hlt (Nat.lt_succ_self k)
      cases he : events k with
      | none => exact ⟨hout, hs⟩
      | some event =>
        cases event with
        | forgot e =>
          have hne : e ≠ d := fun hed => hforget (by rw [he, hed])
          exact ⟨⟨hne, hout⟩, hs⟩
        | checked e u duplicate =>
          by_cases hed : e = d
          · subst hed
            cases duplicate with
            | false => exact absurd he (hpassed u)
            | true => exact ⟨.inl rfl, hs⟩
          · have hmem : d ∈ digests :=
              hdigests j (Nat.lt_of_lt_of_le hlt (Nat.le_of_succ_le hk)) d s false h.admitted_eq
            have hsub : insert e (crowd d (historyOf events k)) ⊆ digests.erase d :=
              Finset.insert_subset (Finset.mem_erase.2 ⟨hed, hdigests k hk e u duplicate he⟩)
                (crowd_historyOf hdigests d (Nat.le_of_succ_le hk))
            have hroom := Finset.card_le_card hsub
            rw [Finset.card_erase_of_mem hmem] at hroom
            have hpos : 0 < digests.card := Finset.card_pos.2 ⟨d, hmem⟩
            have hlt : (insert e (crowd d (historyOf events k))).card < capacity := by omega
            refine ⟨.inr ⟨hout, hlt⟩, ?_⟩
            cases duplicate <;> simpa [admitted, hed] using hs
    · rw [h.admitted_eq]
      exact ⟨.inl rfl, by simp [admitted]⟩

/-- **Room for all.** With room for all digests, a payload is a duplicate exactly when it was let
through before, within the window, and was neither let through again nor forgotten since. -/
theorem duplicate_iff (h : Led windowMs capacity n events caches) (hw : windowMs ≠ 0)
    (hc : 0 < capacity) (hfits : Fits capacity n events) (hk : k < n) {duplicate : Bool}
    (he : events k = some (.checked d t duplicate)) :
    duplicate = true ↔ ∃ j s, Standing events d s j k ∧
      t.toNat - s.toNat < min (windowMs.toNat * 1000000) (UInt64.size - 1) := by
  constructor
  · rintro rfl
    exact h.standing_of_duplicate hw hc hk he
  · rintro ⟨j, s, hj, hlt⟩
    obtain ⟨hout, hs⟩ := outlasts_of_standing hfits (Nat.le_of_lt hk) hj
    exact (h.duplicate_iff_outlasts hw hc hk he).2 ⟨hout, s, hs, hlt⟩

/-! ## Twice within a window -/

/-- Of the times at which a digest was let through, one is the latest. -/
theorem exists_latest_admission (he : events j = some (.checked d s false)) (hj : j < k) :
    ∃ l u, j ≤ l ∧ l < k ∧ events l = some (.checked d u false) ∧
      ∀ i, l < i → i < k → ∀ u, events i ≠ some (.checked d u false) := by
  induction k, hj using Nat.le_induction with
  | base => exact ⟨j, s, Nat.le_refl j, Nat.lt_succ_self j, he, fun i h₁ h₂ => by omega⟩
  | succ k hj ih =>
    by_cases hk : ∃ u, events k = some (.checked d u false)
    · obtain ⟨u, hu⟩ := hk
      exact ⟨k, u, Nat.le_of_succ_le hj, Nat.lt_succ_self k, hu, fun i h₁ h₂ => by omega⟩
    · obtain ⟨l, u, hjl, hlk, hl, hlast⟩ := ih
      refine ⟨l, u, hjl, Nat.lt_succ_of_lt hlk, hl, fun i h₁ h₂ v hv => ?_⟩
      obtain hlt | rfl := Nat.lt_succ_iff_lt_or_eq.1 h₂
      · exact hlast i h₁ hlt v hv
      · exact hk ⟨v, hv⟩

/-- A digest that is let through twice within a window was forgotten in between. -/
theorem exists_forgot (h : Led windowMs capacity n events caches) (hw : windowMs ≠ 0)
    (hc : 0 < capacity) (hfits : Fits capacity n events) (hclock : Steady n events) (hjk : j < k)
    (hk : k < n) (hj : events j = some (.checked d s false))
    (he : events k = some (.checked d t false))
    (hlt : t.toNat - s.toNat < min (windowMs.toNat * 1000000) (UInt64.size - 1)) :
    ∃ f, j < f ∧ f < k ∧ events f = some (.forgot d) := by
  by_contra hnone
  obtain ⟨l, u, hjl, hlk, hl, hlast⟩ := exists_latest_admission hj hjk
  have hstands : Standing events d u l k :=
    ⟨hlk, hl, hlast, fun i h₁ h₂ hf => hnone ⟨i, by omega, h₂, hf⟩⟩
  have hsu := hclock j l hjl (Nat.lt_trans hlk hk) d d s u false false hj hl
  have hdup := (h.duplicate_iff hw hc hfits hk he).2 ⟨l, u, hstands, by omega⟩
  cases hdup

/-- The first forgetting in between comes before the digest is let through again. -/
theorem exists_first_forgot (h : Led windowMs capacity n events caches) (hw : windowMs ≠ 0)
    (hc : 0 < capacity) (hfits : Fits capacity n events) (hclock : Steady n events) (hjk : j < k)
    (hk : k < n) (hj : events j = some (.checked d s false))
    (he : events k = some (.checked d t false))
    (hlt : t.toNat - s.toNat < min (windowMs.toNat * 1000000) (UInt64.size - 1)) :
    ∃ f, j < f ∧ f < k ∧ events f = some (.forgot d) ∧
      ∀ i, j < i → i < f → ∀ u, events i ≠ some (.checked d u false) := by
  classical
  have hsome := h.exists_forgot hw hc hfits hclock hjk hk hj he hlt
  obtain ⟨hjf, hfk, hf⟩ := Nat.find_spec hsome
  refine ⟨Nat.find hsome, hjf, hfk, hf, fun i h₁ h₂ u hu => ?_⟩
  have hut := hclock i k (by omega) hk d d u t false false hu he
  obtain ⟨g, hjg, hgi, hg⟩ := h.exists_forgot hw hc hfits hclock h₁ (by omega) hj hu (by omega)
  exact Nat.find_min hsome (Nat.lt_trans hgi h₂) ⟨hjg, by omega, hg⟩

end Led
end DuplicateCache
end EventRelay
