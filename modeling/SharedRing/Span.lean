/-!
Spans of private memory to hold a ring inside one process. A span starts at a cache line, so
every offset that is a multiple of four is an aligned address.
-/

namespace SharedRing

structure Span where
  base : Nat
  size : Nat
  aligned : base % 64 = 0

namespace Span

def lineSize : Nat := 64

def isEmpty (s : Span) : Bool := s.size = 0

/-- The span asked for does not fit an address space once it is rounded up to whole lines. -/
structure TooLarge where
  size : Nat
  deriving DecidableEq, Repr

def TooLarge.message (e : TooLarge) : String := s!"span of {e.size} bytes is too large"

def roundUpToLine (size : Nat) : Nat := (size + (lineSize - 1)) / lineSize * lineSize

def allocate (size : Nat) : Except TooLarge Span :=
  if roundUpToLine size < 9223372036854775808 then .ok ⟨0, size, rfl⟩ else .error ⟨size⟩

end Span

end SharedRing
