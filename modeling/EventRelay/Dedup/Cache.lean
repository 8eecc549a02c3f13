import EventRelay.Dedup.Sha256
import EventRelay.Settings.Basic
import EventRelay.Time.Duration

/-!
# Duplicate payloads

A cache remembers when each payload was let through, by its digest. A payload that comes again
within the window is a duplicate, and being one does not lengthen the window. The cache holds a
bounded number of digests; a new one takes the place of the digest that was asked about longest
ago.

* `DuplicateCache.check`: whether a payload is a duplicate, and the cache afterwards.
* `DuplicateCache.forget`: a payload may come again.
* `length_check_le`: a check keeps the bound.
* `find?_forget_self`: a forgotten digest is no longer held.
-/

namespace EventRelay

/-- The digests held, the one asked about last first, each with the time at which its payload was
let through. -/
structure DuplicateCache where
  capacity : Nat
  windowMs : UInt64
  entries : List (String × UInt64)
  deriving DecidableEq, Repr

/-- How long a payload counts as a duplicate, and how many digests are held. -/
structure DuplicateWindow where
  length : Duration
  capacity : UInt64
  deriving DecidableEq, Repr

/-- The digest of a payload. -/
def digestOf (payload : ByteArray) : String := Sha256.digest payload

namespace DuplicateWindow

/-- How many digests a cache holds when the settings do not say. -/
def defaultCapacity : UInt64 := 10000

/-- The window that settings ask for; none when they switch suppression off. -/
def ofSettings (s : Settings) : Option DuplicateWindow :=
  if s.duplicateTimeout = 0 then none
  else some ⟨.ofMillis s.duplicateTimeout,
    if s.duplicateCacheSize = 0 then defaultCapacity else s.duplicateCacheSize⟩

end DuplicateWindow

namespace DuplicateCache

/-- A cache that holds nothing. -/
def new (windowMs : UInt64) (capacity : Nat) : DuplicateCache := ⟨capacity, windowMs, []⟩

/-- The cache of a window. -/
def ofWindow (window : DuplicateWindow) : DuplicateCache :=
  new (.ofNat (min window.length.wholeMillis (UInt64.size - 1))) window.capacity.toNat

/-- The length of the window in nanoseconds, at most the greatest word. -/
def windowNanos (cache : DuplicateCache) : Nat :=
  min (cache.windowMs.toNat * 1000000) (UInt64.size - 1)

/-- How many digests are held. -/
def size (cache : DuplicateCache) : Nat := cache.entries.length

/-- When the payload of a digest was let through, if the digest is held. -/
def find? (digest : String) (cache : DuplicateCache) : Option UInt64 :=
  (cache.entries.find? (fun e => e.1 == digest)).map (·.2)

/-- The entries without that of a digest. -/
def without (digest : String) (cache : DuplicateCache) : List (String × UInt64) :=
  cache.entries.filter (fun e => e.1 != digest)

/-- Holds a digest with a time, as the one asked about last. -/
def put (digest : String) (time : UInt64) (cache : DuplicateCache) : DuplicateCache :=
  { cache with entries := ((digest, time) :: cache.without digest).take cache.capacity }

/-- Whether a payload let through at `first` is a duplicate at `now`. -/
def isWithin (cache : DuplicateCache) (first now : UInt64) : Bool :=
  now.toNat - first.toNat < cache.windowNanos

/-- Whether a digest is that of a duplicate, and the cache afterwards. Without a window nothing is
a duplicate and nothing is held. -/
def check (cache : DuplicateCache) (digest : String) (now : UInt64) : Bool × DuplicateCache :=
  if cache.windowMs = 0 then (false, cache)
  else match cache.find? digest with
    | some first =>
      if cache.isWithin first now then (true, cache.put digest first)
      else (false, cache.put digest now)
    | none => (false, cache.put digest now)

/-- A payload of the digest may come again. -/
def forget (cache : DuplicateCache) (digest : String) : DuplicateCache :=
  { cache with entries := cache.without digest }

/-- A cache for people. -/
def text (cache : DuplicateCache) : String :=
  "LruDuplicateChecker \x7b ttl_ms: " ++ toString cache.windowMs.toNat ++ ", len: " ++
    toString cache.size ++ ", capacity: " ++ toString cache.capacity ++ " \x7d"

/-! ## What the operations do to what is held -/

theorem length_put_le (digest : String) (time : UInt64) (cache : DuplicateCache) :
    (cache.put digest time).size ≤ cache.capacity := by
  simp only [put, size, List.length_take]
  omega

/-- A check keeps the bound. -/
theorem length_check_le (cache : DuplicateCache) (digest : String) (now : UInt64)
    (h : cache.size ≤ cache.capacity) : (cache.check digest now).2.size ≤ cache.capacity := by
  simp only [check]
  split
  · exact h
  · split
    · split <;> exact length_put_le ..
    · exact length_put_le ..

theorem find?_put_self (digest : String) (time : UInt64) (cache : DuplicateCache)
    (h : 0 < cache.capacity) : (cache.put digest time).find? digest = some time := by
  obtain ⟨n, hn⟩ : ∃ n, cache.capacity = n + 1 := ⟨cache.capacity - 1, by omega⟩
  simp [put, find?, hn]

/-- A forgotten digest is no longer held. -/
theorem find?_forget_self (digest : String) (cache : DuplicateCache) :
    (cache.forget digest).find? digest = none := by
  simp [forget, find?, without, List.find?_eq_none]

end DuplicateCache
end EventRelay
