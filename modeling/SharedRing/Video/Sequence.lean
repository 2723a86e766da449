/-!
Which frames are missing from those that arrive. Indices have 32 bits and go round; the number of
frames skipped before one is its distance from the index that was due. The total of these numbers
has 64 bits and goes round as well.
-/

namespace SharedRing.Video

structure Sequence where
  /-- The index that is due; none before the first frame. -/
  due : Option UInt32
  total : UInt64
  deriving DecidableEq, Repr

namespace Sequence

def start : Sequence := ⟨none, 0⟩

def gaps (s : Sequence) : Nat := s.total.toNat

def skipped (s : Sequence) (index : UInt32) : UInt32 :=
  match s.due with
  | none => 0
  | some due => index - due

def observe (s : Sequence) (index : UInt32) : UInt32 × Sequence :=
  (s.skipped index, ⟨some (index + 1), s.total + (s.skipped index).toUInt64⟩)

end Sequence

end SharedRing.Video
