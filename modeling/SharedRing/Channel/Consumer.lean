import SharedRing.Channel.Binding

/-!
The reading end of a channel. It attaches to an existing object and takes messages out of the ring
in it; neither opening nor closing it changes the object or its name.
-/

namespace SharedRing

structure Consumer where
  /-- The normalized name of the channel. -/
  name : String
  /-- None once the end is closed. -/
  binding : Option Binding

namespace Consumer

/-- Attaches to a channel; a size of zero takes that of the object. -/
def attach (h : Host) (name : String) (size : Nat) : Except ChannelError Consumer × Host :=
  match Segment.attach h name size with
  | .error e => (.error e, h)
  | .ok s =>
      match Binding.new s .consumer h with
      | (.error e, h) => (.error (.invalidRing e), h)
      | (.ok b, h) =>
          (.ok ⟨s.name, some b⟩, h.report (.consumerOpened s.name b.ring.capacity.size))

/-- Takes the next message into the front of `out`; answers its length, which is zero when nothing
was delivered, and the buffer. -/
def read (c : Consumer) (h : Host) (out : Bytes) : (Nat × Bytes) × Host :=
  match c.binding with
  | none => ((0, out), h)
  | some b =>
      let res := b.ring.read (b.memory h) out
      ((res.length, res.out), b.setMemory h res.memory)

def readMessage (c : Consumer) (h : Host) : Option Bytes × Host :=
  match c.binding with
  | none => (none, h)
  | some b =>
      let (msg, m) := b.ring.readMessage (b.memory h)
      (msg, b.setMemory h m)

def isValid (c : Consumer) : Bool := c.binding.isSome

def capacity (c : Consumer) : Nat := (c.binding.map (·.ring.capacity.size)).getD 0

def readable (c : Consumer) (h : Host) : Nat :=
  (c.binding.map (fun b => b.ring.readable (b.memory h))).getD 0

def hasData (c : Consumer) (h : Host) : Bool :=
  (c.binding.map (fun b => b.ring.hasData (b.memory h))).getD false

def canRead (c : Consumer) (h : Host) : Bool :=
  (c.binding.map (fun b => (b.ring.nextLength? (b.memory h)).isSome)).getD false

/-- A read takes bytes out of the ring whenever a complete message is there. -/
theorem readable_read_lt {c : Consumer} {h : Host} {out : Bytes} (hc : c.canRead h = true) :
    c.readable (c.read h out).2 < c.readable h := by
  unfold canRead readable read at *
  cases hb : c.binding with
  | none => simp [hb] at hc
  | some b =>
      simp only [hb, Option.map_some, Option.getD_some] at hc ⊢
      obtain ⟨n, hn⟩ := Option.isSome_iff_exists.1 hc
      have hm : b.memory h ≠ .zeroed := by
        intro hz
        rw [hz, Ring.nextLength?_zeroed] at hn
        simp at hn
      have hle := Ring.le_readable_of_nextLength? hn
      rw [Binding.memory_setMemory hm, Ring.read_memory, hn]
      simp only [Ring.readable_dropMessage hle, Ring.lengthSize] at hle ⊢
      omega

def close (c : Consumer) (h : Host) : Consumer × Host :=
  match c.binding with
  | none => (c, h)
  | some b => ({ c with binding := none }, b.segment.drop h)

def drop (c : Consumer) (h : Host) : Host := (c.close h).2

end Consumer

end SharedRing
