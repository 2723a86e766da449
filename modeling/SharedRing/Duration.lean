/-!
Lengths of time in whole nanoseconds, of less than `2 ^ 64` seconds. Multiplying one by a number
stops at the longest.
-/

namespace SharedRing

namespace Duration

def nanosPerSecond : Nat := 1000000000

def limit : Nat := 18446744073709551616 * nanosPerSecond

theorem limit_pos : 0 < limit := by decide

end Duration

structure Duration where
  nanos : Nat
  lt_limit : nanos < Duration.limit
  deriving DecidableEq, Repr

namespace Duration

def ofNanos (n : Nat) : Duration where
  nanos := min n (limit - 1)
  lt_limit := by have := limit_pos; omega

def ofParts (seconds nanos : Nat) : Duration := ofNanos (seconds * nanosPerSecond + nanos)

def zero : Duration := ⟨0, limit_pos⟩

def seconds (d : Duration) : Nat := d.nanos / nanosPerSecond

def subsecond (d : Duration) : Nat := d.nanos % nanosPerSecond

def mul (d : Duration) (k : Nat) : Duration := ofNanos (d.nanos * k)

def atMost (d max : Duration) : Duration := if d.nanos ≤ max.nanos then d else max

def sub? (d e : Duration) : Option Duration :=
  if e.nanos ≤ d.nanos then some ⟨d.nanos - e.nanos, by have := d.lt_limit; omega⟩ else none

@[simp] theorem ofNanos_nanos (n : Nat) : (ofNanos n).nanos = min n (limit - 1) := rfl

end Duration

end SharedRing
