import Mathlib.Algebra.BigOperators.Intervals
import EventRelay.Delivery.Plan

/-!
# The waits of a plan in closed form

A plan computes its waits one after the other, and every sum and every doubling on the way stops at
the greatest duration. A saturated power of two is all that remains of the doublings.

* `Duration.nanos_double_iterate`: what any number of doublings makes of a duration.
* `RetryPlan.schedule_eq`: each wait of a schedule from its place alone.
* `RetryPlan.schedule_closed_form`: the number, the values, the order and the sum of the waits.
-/

namespace EventRelay

/-- Doublings that stop at the greatest duration multiply by a power of two and stop once. -/
theorem Duration.nanos_double_iterate (a : Duration) (times : Nat) :
    (double^[times] a).nanos = min (a.nanos * 2 ^ times) maxNanos := by
  induction times with
  | zero => simp [Nat.min_eq_left a.nanos_le]
  | succ times ih =>
    rw [Function.iterate_succ_apply', nanos_double, ih, Nat.pow_succ, ← Nat.mul_assoc]
    omega

/-- The whole seconds of a duration are an unsigned word. -/
theorem Duration.seconds_lt (a : Duration) : a.nanos / 1000000000 < UInt64.size := by
  have h := a.nanos_le
  unfold maxNanos UInt64.size at h
  unfold UInt64.size
  omega

namespace RetryPlan

variable (p : RetryPlan)

/-- What a backoff has become after a number of waits. -/
def grown (backoff : Duration) (waits : Nat) : Duration :=
  match p.growth with
  | .exponential => Duration.double^[waits] backoff
  | .constant => backoff

/-- The wait at a place of the schedule, counted from zero. -/
def waitAt : Nat → Duration
  | 0 => p.initialDelay
  | waits + 1 => (p.grown p.initialBackoff waits).add p.pad

/-! ## The growth of the backoff -/

@[simp] theorem grown_zero (backoff : Duration) : p.grown backoff 0 = backoff := by
  unfold grown
  cases p.growth <;> rfl

/-- The growth may be counted from the next wait on. -/
theorem grown_succ (backoff : Duration) (waits : Nat) :
    p.grown backoff (waits + 1) = p.grown (p.grown backoff 1) waits := by
  unfold grown
  cases p.growth <;> rfl

/-- After the first wait, the next one is the backoff and the pad, and the backoff grows. -/
theorem nextDelay_of_lt {attempt : Nat} (h : 1 < attempt) (backoff : Duration) :
    p.nextDelay attempt backoff = (backoff.add p.pad, p.grown backoff 1) := by
  rw [nextDelay, if_neg (by omega), grown]
  cases p.growth <;> rfl

theorem nanos_grown (backoff : Duration) (waits : Nat) :
    (p.grown backoff waits).nanos = match p.growth with
      | .exponential => min (backoff.nanos * 2 ^ waits) Duration.maxNanos
      | .constant => backoff.nanos := by
  unfold grown
  cases p.growth with
  | exponential => exact backoff.nanos_double_iterate waits
  | constant => rfl

/-- A backoff never shrinks. -/
theorem nanos_grown_mono (backoff : Duration) {waits later : Nat} (h : waits ≤ later) :
    (p.grown backoff waits).nanos ≤ (p.grown backoff later).nanos := by
  rw [nanos_grown, nanos_grown]
  cases p.growth with
  | exponential =>
    have := Nat.mul_le_mul_left backoff.nanos (Nat.pow_le_pow_right (n := 2) Nat.two_pos h)
    dsimp only
    omega
  | constant => exact Nat.le_refl _

/-- No growth goes beyond a doubling with every wait. -/
theorem nanos_grown_le (backoff : Duration) (waits : Nat) :
    (p.grown backoff waits).nanos ≤ backoff.nanos * 2 ^ waits := by
  rw [nanos_grown]
  cases p.growth with
  | exponential => exact Nat.min_le_left _ _
  | constant => exact Nat.le_mul_of_pos_right _ Nat.one_le_two_pow

/-! ## The waits -/

/-- The waits from the second attempt or a later one on. -/
theorem waitsFrom_eq (count : Nat) {attempt : Nat} (h : 1 < attempt) (backoff : Duration) :
    p.waitsFrom count attempt backoff =
      (List.range count).map fun waits => (p.grown backoff waits).add p.pad := by
  induction count generalizing attempt backoff with
  | zero => rfl
  | succ count ih =>
    rw [waitsFrom, p.nextDelay_of_lt h, List.range_succ_eq_map, List.map_cons, List.map_map,
      grown_zero]
    refine congrArg (backoff.add p.pad :: ·) ((ih (Nat.lt_succ_of_lt h) _).trans ?_)
    exact List.map_congr_left fun waits _ => by
      rw [Function.comp_apply, p.grown_succ backoff waits]

/-- **Closed form.** A schedule lists the waits of its places. -/
theorem schedule_eq : p.schedule = (List.range (p.attemptLimit - 1)).map p.waitAt := by
  unfold schedule
  cases p.attemptLimit - 1 with
  | zero => rfl
  | succ count =>
    rw [waitsFrom,
      show p.nextDelay 1 p.initialBackoff = (p.initialDelay, p.initialBackoff) from rfl,
      List.range_succ_eq_map, List.map_cons, List.map_map]
    exact congrArg (p.initialDelay :: ·) (p.waitsFrom_eq count (by decide) _)

/-- From the second wait on, the waits never decrease. -/
theorem nanos_waitAt_mono {waits later : Nat} (h : waits ≤ later) :
    (p.waitAt (waits + 1)).nanos ≤ (p.waitAt (later + 1)).nanos := by
  have := p.nanos_grown_mono p.initialBackoff h
  simp only [waitAt, Duration.nanos_add]
  omega

/-- The waits from the second one on, added up without a limit. -/
theorem sum_waitAt_le (count : Nat) :
    ((List.range count).map fun waits => (p.waitAt (waits + 1)).nanos).sum ≤
      ∑ i ∈ Finset.Icc 1 count, (p.initialBackoff.nanos * 2 ^ i + p.pad.nanos) := by
  induction count with
  | zero => simp
  | succ count ih =>
    have hwait : (p.waitAt (count + 1)).nanos ≤
        p.initialBackoff.nanos * 2 ^ (count + 1) + p.pad.nanos := by
      have hgrown := p.nanos_grown_le p.initialBackoff count
      have hpow := Nat.mul_le_mul_left p.initialBackoff.nanos
        (Nat.pow_le_pow_right (n := 2) Nat.two_pos (Nat.le_add_right count 1))
      simp only [waitAt, Duration.nanos_add]
      omega
    rw [List.range_succ, List.map_append, List.sum_append, Finset.sum_Icc_succ_top (by omega)]
    simpa using Nat.add_le_add ih hwait

/-- A schedule is empty, or has the initial delay before the later waits. -/
theorem schedule_cases : p.schedule = [] ∨
    p.schedule = p.initialDelay ::
      (List.range (p.attemptLimit - 2)).map fun waits => p.waitAt (waits + 1) := by
  rw [schedule_eq, show p.attemptLimit - 2 = p.attemptLimit - 1 - 1 from rfl]
  cases p.attemptLimit - 1 with
  | zero => exact .inl rfl
  | succ count =>
    rw [List.range_succ_eq_map, List.map_cons, List.map_map]
    exact .inr rfl

/-- The waits of a schedule, added up without a limit. -/
theorem sum_schedule_le :
    (p.schedule.map Duration.nanos).sum ≤ p.initialDelay.nanos +
      ∑ i ∈ Finset.Icc 1 (p.attemptLimit - 2), (p.initialBackoff.nanos * 2 ^ i + p.pad.nanos) := by
  obtain h | h := p.schedule_cases
  · simp [h]
  · rw [h, List.map_cons, List.map_map, List.sum_cons]
    exact Nat.add_le_add_left (p.sum_waitAt_le _) _

/-- From the second wait on, none is shorter than one before it. -/
theorem schedule_pairwise :
    (p.schedule.drop 1).Pairwise fun wait later => wait.nanos ≤ later.nanos := by
  obtain h | h := p.schedule_cases
  · rw [h]
    exact .nil
  · rw [h, List.drop_one, List.tail_cons, List.pairwise_map]
    exact List.pairwise_lt_range.imp fun hlt => p.nanos_waitAt_mono (Nat.le_of_lt hlt)

/-- The durations of settings are their milliseconds, whichever words these are. -/
theorem nanos_ofSettings (s : Settings) :
    (ofSettings s).initialDelay.nanos = s.initialDelay.toNat * 1000000 ∧
    (ofSettings s).initialBackoff.nanos = s.initialBackoff.toNat * 1000000 ∧
    (ofSettings s).pad.nanos = s.pad.toNat * 1000000 :=
  ⟨Duration.nanos_ofMillis _, Duration.nanos_ofMillis _, Duration.nanos_ofMillis _⟩

/-- **Schedule.** There is one wait fewer than attempts. The first is the initial delay. Each later
one is the backoff, doubled with every wait since the second unless its growth is constant, and the
pad; the doublings and the sum stop at the greatest duration and nothing else is lost. From the
second on the waits never decrease. No count of waits or of their seconds passes its word, and the
durations of settings are never cut. All waits together are at most the initial delay and what the
later ones would come to if nothing stopped them. -/
theorem schedule_closed_form :
    (p.schedule.map Duration.nanos =
      (List.range (max p.maxAttempts.toNat 1 - 1)).map fun
        | 0 => p.initialDelay.nanos
        | waits + 1 => match p.growth with
          | .exponential =>
            min (min (p.initialBackoff.nanos * 2 ^ waits) Duration.maxNanos + p.pad.nanos)
              Duration.maxNanos
          | .constant => min (p.initialBackoff.nanos + p.pad.nanos) Duration.maxNanos) ∧
    (p.schedule.drop 1).Pairwise (fun wait later => wait.nanos ≤ later.nanos) ∧
    p.schedule.length < UInt32.size ∧
    (∀ wait ∈ p.schedule, wait.nanos / 1000000000 < UInt64.size) ∧
    (∀ s : Settings, (ofSettings s).initialDelay.nanos = s.initialDelay.toNat * 1000000 ∧
      (ofSettings s).initialBackoff.nanos = s.initialBackoff.toNat * 1000000 ∧
      (ofSettings s).pad.nanos = s.pad.toNat * 1000000) ∧
    (p.schedule.map Duration.nanos).sum ≤ p.initialDelay.nanos +
      ∑ i ∈ Finset.Icc 1 (max p.maxAttempts.toNat 1 - 2),
        (p.initialBackoff.nanos * 2 ^ i + p.pad.nanos) := by
  refine ⟨?_, p.schedule_pairwise, ?_, fun wait _ => wait.seconds_lt, nanos_ofSettings,
    p.sum_schedule_le⟩
  · rw [schedule_eq, List.map_map]
    refine List.map_congr_left fun place _ => ?_
    cases place with
    | zero => rfl
    | succ waits =>
      rw [Function.comp_apply, waitAt, Duration.nanos_add, nanos_grown]
      cases p.growth <;> rfl
  · rw [length_schedule, attemptLimit]
    have := p.maxAttempts.toNat_lt
    unfold UInt32.size
    omega

end RetryPlan
end EventRelay
