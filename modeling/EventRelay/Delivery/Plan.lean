import EventRelay.Settings.Basic
import EventRelay.Text.Blank
import EventRelay.Text.Number
import EventRelay.Time.Duration

/-!
# How long to wait between sends

The first wait is the initial delay. Each later one is the backoff and a pad, and the backoff
doubles with every wait unless its growth is constant.

* `RetryPlan.nextDelay`: the wait after an attempt and the backoff from then on.
* `RetryPlan.schedule`: every wait of a delivery that never succeeds.
* `length_schedule`: there is one wait fewer than attempts.
-/

namespace EventRelay

/-- How the backoff grows. -/
inductive BackoffGrowth where
  | exponential
  | constant
  deriving DecidableEq, Repr

/-- The growth of a name: constant for `constant`, in any case and between blanks, else
exponential. -/
def BackoffGrowth.parse (name : String) : BackoffGrowth :=
  if Text.asciiLower (Text.trimBlanks name) = "constant" then .constant else .exponential

/-- The name of a growth. -/
def BackoffGrowth.name : BackoffGrowth → String
  | .exponential => "exponential"
  | .constant => "constant"

/-- How often to send and how long to wait. -/
structure RetryPlan where
  maxAttempts : UInt32
  initialDelay : Duration
  initialBackoff : Duration
  pad : Duration
  growth : BackoffGrowth
  deriving DecidableEq, Repr

namespace RetryPlan

/-- One send and no wait. -/
def single : RetryPlan := ⟨1, .zero, .zero, .zero, .exponential⟩

/-- The plan of settings. -/
def ofSettings (s : Settings) : RetryPlan :=
  ⟨s.maxAttempts, .ofMillis s.initialDelay, .ofMillis s.initialBackoff, .ofMillis s.pad,
    .parse s.backoffMethod⟩

/-- How many sends there may be; always one. -/
def attemptLimit (p : RetryPlan) : Nat := max p.maxAttempts.toNat 1

/-- The wait after an attempt, and the backoff from then on. -/
def nextDelay (p : RetryPlan) (attempt : Nat) (backoff : Duration) : Duration × Duration :=
  if attempt = 1 then (p.initialDelay, backoff)
  else
    (backoff.add p.pad, match p.growth with
      | .exponential => backoff.double
      | .constant => backoff)

/-- The waits after `count` attempts from the given one on. -/
def waitsFrom (p : RetryPlan) : Nat → Nat → Duration → List Duration
  | 0, _, _ => []
  | count + 1, attempt, backoff =>
    let (delay, backoff) := p.nextDelay attempt backoff
    delay :: p.waitsFrom count (attempt + 1) backoff

/-- Every wait of a delivery that never succeeds. -/
def schedule (p : RetryPlan) : List Duration :=
  p.waitsFrom (p.attemptLimit - 1) 1 p.initialBackoff

theorem length_waitsFrom (p : RetryPlan) (count attempt : Nat) (backoff : Duration) :
    (p.waitsFrom count attempt backoff).length = count := by
  induction count generalizing attempt backoff with
  | zero => rfl
  | succ n ih => simp [waitsFrom, ih]

/-- There is one wait fewer than attempts. -/
theorem length_schedule (p : RetryPlan) : p.schedule.length = p.attemptLimit - 1 :=
  p.length_waitsFrom ..

end RetryPlan
end EventRelay
