import SharedRing.Channel.Binding

/-!
The writing end of a channel. It creates the shared object and the ring in it. Destroying it
removes the channel's name once, whether it is still open or not; closing it leaves the name.
-/

namespace SharedRing

structure Producer where
  /-- The normalized name of the channel. -/
  name : String
  /-- None once the end is closed. -/
  binding : Option Binding
  destroyed : Bool

namespace Producer

def maxSpan : Nat := 18446744073709551615

/-- Creates a channel with room for `requested` bytes, rounded down to a power of two. When that
leaves too little for a ring the name is removed again. -/
def create (h : Host) (name : String) (requested : Nat) : Except ChannelError Producer × Host :=
  match Segment.create h name (min (requested + Header.size) maxSpan) with
  | (.error e, h) => (.error e, h)
  | (.ok s, h) =>
      match Binding.new s .producer h with
      | (.error e, h) =>
          let e := ChannelError.invalidRing e
          (.error e, Segment.remove (h.report (.cannotHost s.name requested e)) s.name)
      | (.ok b, h) =>
          (.ok ⟨s.name, some b, false⟩,
            h.report (.producerCreated s.name requested b.ring.capacity.size))

/-- Appends a message; refused when it does not fit now, is empty, or the end is closed. -/
def write (p : Producer) (h : Host) (msg : Bytes) : Bool × Host :=
  match p.binding with
  | none => (false, h)
  | some b =>
      let (ok, m) := b.ring.write (b.memory h) msg
      (ok, b.setMemory h m)

def isValid (p : Producer) : Bool := p.binding.isSome

def capacity (p : Producer) : Nat := (p.binding.map (·.ring.capacity.size)).getD 0

def writable (p : Producer) (h : Host) : Nat :=
  (p.binding.map (fun b => b.ring.writable (b.memory h))).getD 0

/-- Removes the channel's name, the first time it is called. -/
def destroy (p : Producer) (h : Host) : Producer × Host :=
  if p.destroyed then (p, h)
  else
    match p.binding with
    | none => ({ p with destroyed := true }, Segment.remove h p.name)
    | some b =>
        let (s, h) := b.segment.destroy h
        ({ p with binding := some { b with segment := s }, destroyed := true }, h)

def close (p : Producer) (h : Host) : Producer × Host :=
  match p.binding with
  | none => (p, h)
  | some b => ({ p with binding := none }, b.segment.drop h)

def drop (p : Producer) (h : Host) : Host := (p.close h).2

end Producer

end SharedRing
