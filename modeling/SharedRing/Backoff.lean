import SharedRing.Duration

/-!
Growing pauses between polls of an empty ring. Each pause is twice as long as the one before,
never longer than the longest allowed, and back at the first length after a reset.
-/

namespace SharedRing

-- powers are those of the core library, whatever else is imported
attribute [local instance (2000)] instPowNat

structure Backoff where
  base : Duration
  max : Duration
  /-- Pauses since the last reset; it stops counting at its largest value. -/
  attempt : UInt32
  deriving DecidableEq, Repr

namespace Backoff

def new (base max : Duration) : Backoff := ⟨base, max, 0⟩

def standard : Backoff := new (.ofNanos 50000) (.ofNanos 2000000)

/-- A power of two while it fits 32 bits, then the largest number of 32 bits. -/
def factor (attempt : UInt32) : Nat :=
  if attempt.toNat < 32 then 2 ^ attempt.toNat else 4294967295

def delay (b : Backoff) (attempt : UInt32) : Duration :=
  (b.base.mul (factor attempt)).atMost b.max

def nextDelay (b : Backoff) : Duration := b.delay b.attempt

def snooze (b : Backoff) : Backoff :=
  { b with attempt := if b.attempt = 4294967295 then b.attempt else b.attempt + 1 }

def reset (b : Backoff) : Backoff := { b with attempt := 0 }

end Backoff

end SharedRing
