import SharedRing.Ring.Transfer
import SharedRing.Segment

/-!
A ring bound to the whole of a segment, which both ends of a channel are made of. Binding a ring
and giving up the segment when that fails are one step, so no ring outlives its mapping.
-/

namespace SharedRing

structure Binding where
  ring : Ring
  segment : Segment

namespace Binding

def memory (b : Binding) (h : Host) : Memory :=
  (b.segment.mapping.map (fun p => h.memory p.object)).getD .zeroed

def setMemory (b : Binding) (h : Host) (m : Memory) : Host :=
  match b.segment.mapping with
  | none => h
  | some p => h.setMemory p.object m

/-- Memory that holds anything but zeros belongs to an object, and is what is stored there. -/
theorem memory_setMemory {b : Binding} {h : Host} {m : Memory} (hb : b.memory h ≠ .zeroed) :
    b.memory (b.setMemory h m) = m := by
  unfold memory setMemory at *
  cases hp : b.segment.mapping with
  | none => simp [hp] at hb
  | some p =>
      simp only [hp, Option.map_some, Option.getD_some] at hb ⊢
      apply Host.memory_setMemory
      apply Nat.lt_of_not_le
      exact fun hle => hb (Host.memory_of_size_le hle)

def new (s : Segment) (role : Role) (h : Host) : Except RingError Binding × Host :=
  let m := (s.mapping.map (fun p => h.memory p.object)).getD .zeroed
  match Ring.bind m s.base? s.size role with
  | .error e => (.error e, s.drop h)
  | .ok (r, m) => (.ok ⟨r, s⟩, Binding.setMemory ⟨r, s⟩ h m)

end Binding

end SharedRing
