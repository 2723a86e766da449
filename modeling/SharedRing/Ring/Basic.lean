import SharedRing.Capacity
import SharedRing.Memory

/-!
A ring of messages in a span of memory. The span starts with a header of four words: the head
cursor, the tail cursor, the capacity and a reserved word. The data area follows. Cursors count
bytes modulo `2 ^ 32` and are never reduced to positions; the bytes between tail and head are
unread.

The producer's `bind` writes a fresh header; the consumer's reads the published capacity and
changes nothing.
-/

namespace SharedRing

inductive Role where
  | producer
  | consumer
  deriving DecidableEq, Repr

inductive RingError where
  | nullSpan
  | spanTooSmall (len : Nat)
  | misaligned (align : Nat)
  | invalidCapacity (capacity len : Nat)
  deriving DecidableEq, Repr

def RingError.message : RingError → String
  | nullSpan => "Span is a null pointer"
  | spanTooSmall len => s!"Span of {len} bytes cannot hold the ring header"
  | misaligned align => s!"Span base address is not {align}-byte aligned"
  | invalidCapacity capacity len => s!"Invalid ring capacity {capacity} for a {len}-byte span"

structure Header where
  head : UInt32
  tail : UInt32
  capacity : UInt32
  reserved : UInt32
  deriving DecidableEq, Repr

namespace Header

def size : Nat := 16

def align : Nat := 4

def headAt (base : Nat) : Nat := base

def tailAt (base : Nat) : Nat := base + 4

def capacityAt (base : Nat) : Nat := base + 8

def reservedAt (base : Nat) : Nat := base + 12

def load (m : Memory) (base : Nat) : Header where
  head := m.word (headAt base)
  tail := m.word (tailAt base)
  capacity := m.word (capacityAt base)
  reserved := m.word (reservedAt base)

def publish (m : Memory) (base : Nat) (capacity : UInt32) : Memory :=
  -- the capacity last, since a reader takes it for a sign that the rest is there
  (((m.storeWord (headAt base) 0).storeWord (tailAt base) 0).storeWord
    (reservedAt base) 0).storeWord (capacityAt base) capacity

theorem load_publish (m : Memory) (base : Nat) (capacity : UInt32) :
    load (publish m base capacity) base = ⟨0, 0, capacity, 0⟩ := by
  simp [load, publish, headAt, tailAt, capacityAt, reservedAt,
    Memory.word_storeWord_of_disjoint]

end Header

/-- A ring bound to a span: where the span starts, how large its data area is, and which side
this binding is for. -/
structure Ring where
  base : Nat
  capacity : Capacity
  role : Role

namespace Ring

def lengthSize : Nat := 4

def minCapacity : Nat := 8

def maxCapacity : Nat := 2147483648

def spanSize (capacity : Nat) : Nat := capacity + Header.size

def roundedCapacity (n : Nat) : UInt32 :=
  roundDownPow2 (UInt32.ofNat (min n 4294967295))

/-- Binds a ring to the `len` bytes from `base` on; no base is a null pointer. -/
def bind (m : Memory) (base? : Option Nat) (len : Nat) (role : Role) :
    Except RingError (Ring × Memory) :=
  match base? with
  | none => .error .nullSpan
  | some base =>
      if len < Header.size then .error (.spanTooSmall len)
      else if base % Header.align ≠ 0 then .error (.misaligned Header.align)
      else
        match role with
        | .producer =>
            let word := roundedCapacity (len - Header.size)
            match Capacity.ofWord? word with
            | none => .error (.invalidCapacity word.toNat len)
            | some c => .ok (⟨base, c, .producer⟩, Header.publish m base word)
        | .consumer =>
            let word := m.word (Header.capacityAt base)
            match Capacity.ofWord? word with
            | none => .error (.invalidCapacity word.toNat len)
            | some c =>
                if c.size ≤ len - Header.size then .ok (⟨base, c, .consumer⟩, m)
                else .error (.invalidCapacity word.toNat len)

def data (r : Ring) : Nat := r.base + Header.size

def head (r : Ring) (m : Memory) : UInt32 := m.word (Header.headAt r.base)

def tail (r : Ring) (m : Memory) : UInt32 := m.word (Header.tailAt r.base)

def setHead (r : Ring) (m : Memory) (pos : UInt32) : Memory :=
  m.storeWord (Header.headAt r.base) pos

def setTail (r : Ring) (m : Memory) (pos : UInt32) : Memory :=
  m.storeWord (Header.tailAt r.base) pos

def readable (r : Ring) (m : Memory) : Nat := (r.head m - r.tail m).toNat

/-- Free bytes, none when the cursors are further apart than the area is long. -/
def writable (r : Ring) (m : Memory) : Nat := r.capacity.size - r.readable m

def hasData (r : Ring) (m : Memory) : Bool := lengthSize ≤ r.readable m

@[simp] theorem head_setHead (r : Ring) (m : Memory) (pos : UInt32) :
    r.head (r.setHead m pos) = pos :=
  m.word_storeWord _ _

@[simp] theorem tail_setTail (r : Ring) (m : Memory) (pos : UInt32) :
    r.tail (r.setTail m pos) = pos :=
  m.word_storeWord _ _

@[simp] theorem head_setTail (r : Ring) (m : Memory) (pos : UInt32) :
    r.head (r.setTail m pos) = r.head m :=
  Memory.word_storeWord_of_disjoint (by simp only [Header.headAt, Header.tailAt]; omega)

@[simp] theorem tail_setHead (r : Ring) (m : Memory) (pos : UInt32) :
    r.tail (r.setHead m pos) = r.tail m :=
  Memory.word_storeWord_of_disjoint (by simp only [Header.headAt, Header.tailAt]; omega)

end Ring

end SharedRing
