import EventRelay.Time.Duration

/-!
# A clock that moves only when told

Wall time and time since the start are unsigned words of nanoseconds; both move together and wrap.
A sleep moves the clock by its length at once and is counted.

* `Clock.advance`, `Clock.sleep`: the two ways in which time passes.
* `Clock.since`: the time since an earlier reading, none when the clock wrapped in between.
-/

namespace EventRelay

/-- Wall time, time since the start, time slept and the number of sleeps. -/
structure Clock where
  wall : UInt64
  elapsed : UInt64
  slept : UInt64
  sleeps : UInt64
  deriving DecidableEq, Repr

namespace Clock

/-- A clock that starts a number of nanoseconds after the epoch, at the latest at the greatest
word. -/
def startingAt (nanos : Nat) : Clock := ⟨.ofNat (min nanos (UInt64.size - 1)), 0, 0, 0⟩

/-- Time passes. -/
def advance (c : Clock) (d : Duration) : Clock :=
  { c with wall := c.wall + d.word, elapsed := c.elapsed + d.word }

/-- A sleep from its start to its end. -/
def sleep (c : Clock) (d : Duration) : Clock :=
  { c.advance d with slept := c.slept + d.word, sleeps := c.sleeps + 1 }

/-- The time since an earlier reading of the time since the start. -/
def since (c : Clock) (earlier : UInt64) : Nat := c.elapsed.toNat - earlier.toNat

/-- The whole milliseconds since an earlier reading. -/
def millisSince (c : Clock) (earlier : UInt64) : Nat := c.since earlier / 1000000

@[simp] theorem wall_sleep (c : Clock) (d : Duration) : (c.sleep d).wall = c.wall + d.word := rfl

@[simp] theorem sleeps_advance (c : Clock) (d : Duration) : (c.advance d).sleeps = c.sleeps := rfl

@[simp] theorem sleeps_sleep (c : Clock) (d : Duration) :
    (c.sleep d).sleeps = c.sleeps + 1 := rfl

end Clock
end EventRelay
