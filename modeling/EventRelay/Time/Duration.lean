/-!
# Durations

A duration is a whole number of nanoseconds up to the greatest that a count of seconds in an
unsigned word and a fraction below a second can name. Sums and doublings stop there.

* `nanos_add`, `nanos_double`: what the operations do to the count of nanoseconds.
-/

namespace EventRelay

/-- The greatest number of nanoseconds of a duration. -/
def Duration.maxNanos : Nat := (UInt64.size - 1) * 1000000000 + 999999999

/-- A length of time. -/
structure Duration where
  nanos : Nat
  nanos_le : nanos ≤ Duration.maxNanos
  deriving DecidableEq, Repr

namespace Duration

/-- The duration of a number of nanoseconds, at most the greatest. -/
def ofNanos (n : Nat) : Duration := ⟨min n maxNanos, Nat.min_le_right _ _⟩

/-- The duration of a number of milliseconds. -/
def ofMillis (ms : UInt64) : Duration := ofNanos (ms.toNat * 1000000)

/-- The duration of no time. -/
def zero : Duration := ⟨0, by decide⟩

/-- A sum, at most the greatest duration. -/
def add (a b : Duration) : Duration := ofNanos (a.nanos + b.nanos)

/-- Twice a duration, at most the greatest. -/
def double (a : Duration) : Duration := ofNanos (a.nanos * 2)

/-- The whole milliseconds of a duration. -/
def wholeMillis (a : Duration) : Nat := a.nanos / 1000000

/-- The nanoseconds of a duration as a word, at most the greatest word. -/
def word (a : Duration) : UInt64 := .ofNat (min a.nanos (UInt64.size - 1))

@[simp] theorem nanos_ofNanos (n : Nat) : (ofNanos n).nanos = min n maxNanos := rfl

@[simp] theorem nanos_add (a b : Duration) :
    (a.add b).nanos = min (a.nanos + b.nanos) maxNanos := rfl

@[simp] theorem nanos_double (a : Duration) : a.double.nanos = min (a.nanos * 2) maxNanos := rfl

/-- Milliseconds of an unsigned word are never cut. -/
theorem nanos_ofMillis (ms : UInt64) : (ofMillis ms).nanos = ms.toNat * 1000000 := by
  have h := ms.toNat_lt
  have : ms.toNat * 1000000 ≤ maxNanos := by unfold maxNanos UInt64.size; omega
  simp [ofMillis, Nat.min_eq_left this]

/-- A count with the fraction behind it, less the zeros at its end. -/
def withFraction (whole fraction width : Nat) : String :=
  let digits := Nat.toDigits 10 fraction
  let padded := List.replicate (width - digits.length) '0' ++ digits
  let kept := (padded.reverse.dropWhile (· = '0')).reverse
  toString whole ++ (if kept.isEmpty then "" else "." ++ String.ofList kept)

/-- A duration for people, in the greatest of the units s, ms, µs and ns that it reaches. -/
def text (a : Duration) : String :=
  let n := a.nanos
  if 1000000000 ≤ n then withFraction (n / 1000000000) (n % 1000000000) 9 ++ "s"
  else if 1000000 ≤ n then withFraction (n / 1000000) (n % 1000000) 6 ++ "ms"
  else if 1000 ≤ n then withFraction (n / 1000) (n % 1000) 3 ++ "µs"
  else toString n ++ "ns"

end Duration
end EventRelay
