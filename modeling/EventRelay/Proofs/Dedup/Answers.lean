import Mathlib.Data.Finset.Card
import Mathlib.Data.Nat.Find
import Mathlib.Order.Interval.Finset.Nat
import EventRelay.Proofs.Dedup.Recency

/-!
# The answers of a duplicate checker

A checker that is only ever asked answers by the order of the inquiries and by the readings of its
clock. The inquiries of callers that ask at the same time come in some order, that in which they
hold the cache; the clock may stand still or run backwards between them. A finite run is the
beginning of a sequence.

* `before`, `answer`: the cache before an inquiry to a fresh checker, and what it answers.
* `digestsBetween`: the digests that were asked about between two inquiries.
* `answer_eq_true_iff`: the answer is that of the latest inquiry that let the payload through, its
  age, and the number of digests asked about between repeats.
* `answers_follow_history`: the same, with the case of payloads that come at once and that of a
  checker without a window.
-/

namespace EventRelay

/-- One question to a checker: a payload, and what the clock reads while the cache is held. -/
structure Inquiry where
  payload : ByteArray
  time : UInt64

/-- The digest that is asked about. -/
def Inquiry.digest (q : Inquiry) : String := digestOf q.payload

namespace DuplicateCache

section Sequence

variable (windowMs : UInt64) (capacity : Nat) (calls : Nat → Inquiry)

/-- The cache before an inquiry to a checker that was fresh at the first one. -/
def before : Nat → DuplicateCache
  | 0 => .new windowMs capacity
  | i + 1 => ((before i).check (calls i).digest (calls i).time).2

/-- Whether the payload of an inquiry is a duplicate. -/
def answer (i : Nat) : Bool :=
  ((before windowMs capacity calls i).check (calls i).digest (calls i).time).1

/-- The digests asked about between two inquiries. -/
def digestsBetween (k l : Nat) : Finset String := (Finset.Ioo k l).image fun m => (calls m).digest

/-- Two inquiries about a digest with none about it in between. -/
def Consecutive (d : String) (k l : Nat) : Prop :=
  (calls k).digest = d ∧ (calls l).digest = d ∧ ∀ m, k < m → m < l → (calls m).digest ≠ d

/-- The history before an inquiry. -/
def historyBefore : Nat → List Event
  | 0 => []
  | i + 1 => .checked (calls i).digest (calls i).time (answer windowMs capacity calls i) ::
      historyBefore i

end Sequence

variable {windowMs : UInt64} {capacity : Nat} {calls : Nat → Inquiry}

theorem reached_before (i : Nat) :
    Reached windowMs capacity (historyBefore windowMs capacity calls i)
      (before windowMs capacity calls i) := by
  induction i with
  | zero => exact .new
  | succ i ih => exact .check _ _ ih

/-! ## The history in terms of the sequence -/

theorem digestsBetween_self_succ (i : Nat) : digestsBetween calls i (i + 1) = ∅ := by
  have hi : Finset.Ioo i (i + 1) = ∅ := by
    ext m
    simp only [Finset.mem_Ioo, Finset.notMem_empty, iff_false]
    omega
  rw [digestsBetween, hi, Finset.image_empty]

theorem digestsBetween_succ {l i : Nat} (h : l < i) :
    digestsBetween calls l (i + 1) = insert (calls i).digest (digestsBetween calls l i) := by
  have hi : Finset.Ioo l (i + 1) = insert i (Finset.Ioo l i) := by
    ext m
    simp only [Finset.mem_Ioo, Finset.mem_insert]
    omega
  rw [digestsBetween, hi, Finset.image_insert]
  rfl

/-- Since the latest inquiry about a digest its crowd is made of all that were asked about. -/
theorem crowd_historyBefore {d : String} {l i : Nat} (hl : l < i) (hd : (calls l).digest = d)
    (hlast : ∀ m, l < m → m < i → (calls m).digest ≠ d) :
    crowd d (historyBefore windowMs capacity calls i) = digestsBetween calls l i := by
  induction i with
  | zero => omega
  | succ i ih =>
    by_cases hli : l = i
    · subst hli
      rw [historyBefore, crowd, if_pos hd, digestsBetween_self_succ]
    · have hlt : l < i := by omega
      rw [historyBefore, crowd, if_neg (hlast i hlt (by omega)), digestsBetween_succ hlt,
        ih hlt fun m h₁ h₂ => hlast m h₁ (by omega)]

/-- A digest outlasts the history if fewer digests than there are places were asked about since the
latest inquiry about it. -/
theorem outlasts_historyBefore_iff (hc : 0 < capacity) (d : String) (i : Nat) :
    Outlasts capacity d (historyBefore windowMs capacity calls i) ↔
      ∃ l < i, (calls l).digest = d ∧ (∀ m, l < m → m < i → (calls m).digest ≠ d) ∧
        (digestsBetween calls l i).card < capacity := by
  induction i with
  | zero => simp [historyBefore, Outlasts]
  | succ i ih =>
    rw [historyBefore, Outlasts, ih]
    constructor
    · rintro (hd | ⟨⟨l, hl, hd, hlast, -⟩, hcard⟩)
      · exact ⟨i, by omega, hd, by omega, by rw [digestsBetween_self_succ]; exact hc⟩
      · by_cases hdi : (calls i).digest = d
        · exact ⟨i, by omega, hdi, by omega, by rw [digestsBetween_self_succ]; exact hc⟩
        · refine ⟨l, by omega, hd, fun m h₁ h₂ => ?_, ?_⟩
          · rcases Nat.lt_succ_iff_lt_or_eq.1 h₂ with h | rfl
            · exact hlast m h₁ h
            · exact hdi
          · rwa [digestsBetween_succ hl, ← crowd_historyBefore hl hd hlast]
    · rintro ⟨l, hl, hd, hlast, hcard⟩
      by_cases hli : l = i
      · subst hli
        exact .inl hd
      · have hlt : l < i := by omega
        have hlast' : ∀ m, l < m → m < i → (calls m).digest ≠ d :=
          fun m h₁ h₂ => hlast m h₁ (by omega)
        rw [digestsBetween_succ hlt] at hcard
        refine .inr ⟨⟨l, hlt, hd, hlast', ?_⟩, ?_⟩
        · exact (Finset.card_le_card (Finset.subset_insert _ _)).trans_lt hcard
        · rwa [crowd_historyBefore hlt hd hlast']

/-- A payload was last let through at the latest inquiry that was answered so. -/
theorem admitted_historyBefore_iff (d : String) (i : Nat) (t : UInt64) :
    admitted d (historyBefore windowMs capacity calls i) = some t ↔
      ∃ j < i, (calls j).digest = d ∧ answer windowMs capacity calls j = false ∧
        (∀ k, j < k → k < i → (calls k).digest = d → answer windowMs capacity calls k = true) ∧
        (calls j).time = t := by
  induction i with
  | zero => simp [historyBefore, admitted]
  | succ i ih =>
    by_cases hnew : (calls i).digest = d ∧ answer windowMs capacity calls i = false
    · obtain ⟨hd, ha⟩ := hnew
      rw [historyBefore, ha, admitted, if_pos hd]
      constructor
      · intro ht
        exact ⟨i, by omega, hd, ha, by omega, Option.some.inj ht⟩
      · rintro ⟨j, hj, -, -, hlast, ht⟩
        by_cases hji : j = i
        · rw [← ht, hji]
        · have htrue := hlast i (by omega) (by omega) hd
          rw [ha] at htrue
          cases htrue
    · have hstep : admitted d (historyBefore windowMs capacity calls (i + 1)) =
          admitted d (historyBefore windowMs capacity calls i) := by
        rw [historyBefore]
        cases ha : answer windowMs capacity calls i with
        | true => rfl
        | false => rw [admitted, if_neg fun hd => hnew ⟨hd, ha⟩]
      rw [hstep, ih]
      constructor
      · rintro ⟨j, hj, hd, ha, hlast, ht⟩
        refine ⟨j, by omega, hd, ha, fun k h₁ h₂ hk => ?_, ht⟩
        rcases Nat.lt_succ_iff_lt_or_eq.1 h₂ with h | rfl
        · exact hlast k h₁ h hk
        · simpa [hk] using hnew
      · rintro ⟨j, hj, hd, ha, hlast, ht⟩
        have hji : j ≠ i := fun he => hnew ⟨he ▸ hd, he ▸ ha⟩
        exact ⟨j, by omega, hd, ha, fun k h₁ h₂ => hlast k h₁ (by omega), ht⟩

/-! ## The answers -/

private theorem exists_latest {P : Nat → Prop} {i j : Nat} (hj : j < i) (hP : P j) :
    ∃ l, j ≤ l ∧ l < i ∧ P l ∧ ∀ m, l < m → m < i → ¬ P m := by
  classical
  have hle : j ≤ i - 1 := by omega
  refine ⟨Nat.findGreatest P (i - 1), Nat.le_findGreatest hle hP, ?_,
    Nat.findGreatest_spec hle hP, fun m h₁ h₂ => Nat.findGreatest_is_greatest h₁ (by omega)⟩
  have := Nat.findGreatest_le (P := P) (i - 1)
  omega

/-- **Suppression.** A payload is a duplicate exactly when, of the inquiries about it, the latest
that let it through lies within the window and no two consecutive ones since are so far apart that
as many other digests as the cache has places were asked about between them. -/
theorem answer_eq_true_iff (hw : windowMs ≠ 0) (hc : 0 < capacity) (i : Nat) :
    answer windowMs capacity calls i = true ↔
      ∃ j < i, (calls j).digest = (calls i).digest ∧ answer windowMs capacity calls j = false ∧
        (∀ k, j < k → k < i → (calls k).digest = (calls i).digest →
          answer windowMs capacity calls k = true) ∧
        (calls i).time.toNat - (calls j).time.toNat <
          min (windowMs.toNat * 1000000) (UInt64.size - 1) ∧
        ∀ k l, j ≤ k → k < l → l ≤ i → Consecutive calls (calls i).digest k l →
          (digestsBetween calls k l).card < capacity := by
  have hkept : ∀ l, answer windowMs capacity calls l = true →
      Outlasts capacity (calls l).digest (historyBefore windowMs capacity calls l) :=
    fun l hl => (((reached_before l).check_eq_true_iff hw hc _ _).1 hl).1
  rw [answer, (reached_before i).check_eq_true_iff hw hc]
  constructor
  · rintro ⟨hout, t, hat, hlt⟩
    obtain ⟨j, hj, hd, ha, hlast, rfl⟩ := (admitted_historyBefore_iff _ _ _).1 hat
    refine ⟨j, hj, hd, ha, hlast, hlt, ?_⟩
    rintro k l hjk hkl hli ⟨hk, hl, hnone⟩
    -- The later of the two was answered from the cache, or is the inquiry itself.
    have hout' : Outlasts capacity (calls i).digest (historyBefore windowMs capacity calls l) := by
      rcases Nat.lt_or_eq_of_le hli with h | rfl
      · rw [← hl]
        exact hkept l (hlast l (by omega) h hl)
      · exact hout
    obtain ⟨m, hm, hmd, hmlast, hcard⟩ := (outlasts_historyBefore_iff hc _ _).1 hout'
    obtain rfl : m = k := by
      rcases Nat.lt_trichotomy m k with h | h | h
      · exact absurd hk (hmlast k h hkl)
      · exact h
      · exact absurd hmd (hnone m h hm)
    exact hcard
  · rintro ⟨j, hj, hd, ha, hlast, hlt, hgaps⟩
    obtain ⟨l, hjl, hli, hld, hllast⟩ :=
      exists_latest (P := fun m => (calls m).digest = (calls i).digest) hj hd
    refine ⟨(outlasts_historyBefore_iff hc _ _).2 ⟨l, hli, hld, hllast, ?_⟩, (calls j).time,
      (admitted_historyBefore_iff _ _ _).2 ⟨j, hj, hd, ha, hlast, rfl⟩, hlt⟩
    exact hgaps l i hjl hli le_rfl ⟨hld, rfl, hllast⟩

/-- Without an earlier inquiry about it a payload is let through. -/
theorem answer_eq_false_of_first (hw : windowMs ≠ 0) (hc : 0 < capacity) {a : Nat}
    (hfirst : ∀ j < a, (calls j).digest ≠ (calls a).digest) :
    answer windowMs capacity calls a = false := by
  refine Bool.eq_false_iff.2 fun h => ?_
  obtain ⟨j, hj, hd, -⟩ := (answer_eq_true_iff hw hc a).1 h
  exact hfirst j hj hd

/-- Of the inquiries about a payload within one window of the one that let it through only that one
does so, as long as too few other digests are asked about to crowd it out. -/
theorem answer_eq_true_of_within (hw : windowMs ≠ 0) (hc : 0 < capacity) {a b : Nat}
    (ha : answer windowMs capacity calls a = false)
    (hwithin : ∀ k, a ≤ k → k < b → (calls k).digest = (calls a).digest →
      (calls k).time.toNat - (calls a).time.toNat <
        min (windowMs.toNat * 1000000) (UInt64.size - 1))
    (hfew : (((Finset.Ico a b).image fun m => (calls m).digest).erase (calls a).digest).card <
      capacity) {k : Nat} (hak : a < k) (hkb : k < b) (hk : (calls k).digest = (calls a).digest) :
    answer windowMs capacity calls k = true := by
  induction k using Nat.strong_induction_on with
  | _ k ih =>
    rw [answer_eq_true_iff hw hc, hk]
    refine ⟨a, hak, rfl, ha, fun m h₁ h₂ hm => ih m h₂ h₁ (by omega) hm,
      hwithin k (by omega) hkb hk, ?_⟩
    rintro m l ham hml hlk ⟨-, -, hnone⟩
    refine (Finset.card_le_card fun d hd => ?_).trans_lt hfew
    obtain ⟨n, hn, rfl⟩ := Finset.mem_image.1 hd
    rw [Finset.mem_Ioo] at hn
    rw [Finset.mem_erase, Finset.mem_image]
    exact ⟨hnone n hn.1 hn.2, n, Finset.mem_Ico.2 ⟨by omega, by omega⟩, rfl⟩

/-- A checker without a window lets everything through and holds nothing. -/
theorem before_of_windowMs_zero (i : Nat) : before 0 capacity calls i = .new 0 capacity := by
  induction i with
  | zero => rfl
  | succ i ih => rw [before, ih]; rfl

/-- **Answers by history.** With a window and room for one digest at least, each answer is decided
by the inquiries before it; of payloads that come at once for the first time and within a window
exactly one is let through. Without a window all are let through and nothing is held. -/
theorem answers_follow_history (windowMs : UInt64) (capacity : Nat) (calls : Nat → Inquiry) :
    (windowMs ≠ 0 → 0 < capacity →
      (∀ i, answer windowMs capacity calls i = true ↔
        ∃ j < i, (calls j).digest = (calls i).digest ∧ answer windowMs capacity calls j = false ∧
          (∀ k, j < k → k < i → (calls k).digest = (calls i).digest →
            answer windowMs capacity calls k = true) ∧
          (calls i).time.toNat - (calls j).time.toNat <
            min (windowMs.toNat * 1000000) (UInt64.size - 1) ∧
          ∀ k l, j ≤ k → k < l → l ≤ i → Consecutive calls (calls i).digest k l →
            (digestsBetween calls k l).card < capacity) ∧
      (∀ a b, a < b → (∀ j < a, (calls j).digest ≠ (calls a).digest) →
        (∀ k, a ≤ k → k < b → (calls k).digest = (calls a).digest →
          (calls k).time.toNat - (calls a).time.toNat <
            min (windowMs.toNat * 1000000) (UInt64.size - 1)) →
        (((Finset.Ico a b).image fun m => (calls m).digest).erase (calls a).digest).card <
          capacity →
        ∃! k, (a ≤ k ∧ k < b ∧ (calls k).digest = (calls a).digest) ∧
          answer windowMs capacity calls k = false)) ∧
    (windowMs = 0 → ∀ i, answer windowMs capacity calls i = false ∧
      (before windowMs capacity calls i).entries = []) := by
  refine ⟨fun hw hc => ⟨answer_eq_true_iff hw hc, ?_⟩, ?_⟩
  · intro a b hab hfirst hwithin hfew
    have ha := answer_eq_false_of_first hw hc hfirst
    refine ⟨a, ⟨⟨le_rfl, hab, rfl⟩, ha⟩, ?_⟩
    rintro k ⟨⟨hak, hkb, hk⟩, hkf⟩
    by_contra hne
    have ht := answer_eq_true_of_within hw hc ha hwithin hfew (by omega) hkb hk
    rw [hkf] at ht
    cases ht
  · rintro rfl i
    rw [answer, before_of_windowMs_zero]
    exact ⟨rfl, rfl⟩

/-- One payload that comes three times, a tenth of a second apart from two others. -/
def interleaved (i : Nat) : Inquiry :=
  ⟨((["first", "second", "first", "third"] : List String).getD i "first").toUTF8,
    .ofNat (i * 100000000)⟩

theorem answers_follow_history_interleaved :
    (1000 : UInt64) ≠ 0 ∧ 0 < 3 ∧ answer 1000 3 interleaved 4 = true ∧
      ∃! k, (0 ≤ k ∧ k < 5 ∧ (interleaved k).digest = (interleaved 0).digest) ∧
        answer 1000 3 interleaved k = false := by
  obtain ⟨hiff, hone⟩ :=
    (answers_follow_history 1000 3 interleaved).1 (by decide) (by decide)
  have hrepeat : ∀ k < 4, 0 < k → (interleaved k).digest = (interleaved 4).digest →
      answer 1000 3 interleaved k = true := by decide +kernel
  have hage : ∀ k < 5, (interleaved k).time.toNat - (interleaved 0).time.toNat <
      min ((1000 : UInt64).toNat * 1000000) (UInt64.size - 1) := by decide
  refine ⟨by decide, by decide, (hiff 4).2 ⟨0, by decide, rfl, ?_, fun k h₁ h₂ => hrepeat k h₂ h₁,
    hage 4 (by decide), ?_⟩,
    hone 0 5 (by decide) (by omega) (fun k _ hk _ => hage k hk) (by decide +kernel)⟩
  · exact answer_eq_false_of_first (by decide) (by decide) (by omega)
  · rintro k l - hkl hl ⟨-, -, hnone⟩
    by_cases h : k < 2 ∧ 2 < l
    · exact absurd rfl (hnone 2 h.1 h.2)
    · refine Finset.card_image_le.trans_lt ?_
      rw [Nat.card_Ioo]
      omega

end DuplicateCache
end EventRelay
