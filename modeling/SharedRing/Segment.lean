import SharedRing.Host
import SharedRing.Text.Quoted

/-!
Segments: handles on a mapped shared object. Closing a segment gives up its mapping. Its name is
removed by `destroy`, once, or when a creator that asked for it is closed.
-/

namespace SharedRing

structure Mapping where
  object : ObjectId
  size : Nat
  deriving DecidableEq, Repr

structure Segment where
  /-- The normalized name. -/
  name : String
  /-- None once the segment is closed. -/
  mapping : Option Mapping
  /-- This handle created the object. -/
  owner : Bool
  unlinkOnDrop : Bool
  /-- This handle has removed the name. -/
  unlinked : Bool
  deriving DecidableEq, Repr

namespace Segment

/-- Creates a fresh object of `size` zero bytes; a name that is in use is taken over. -/
def create (h : Host) (name : String) (size : Nat) : Except ChannelError Segment × Host :=
  match Name.normalize name with
  | .error e => (.error (.invalidName name e), h)
  | .ok name =>
      match h.create name size with
      | (.error e, h) => (.error e, h)
      | (.ok id, h) => (.ok ⟨name, some ⟨id, size⟩, true, false, false⟩, h)

def attach (h : Host) (name : String) (hint : Nat) : Except ChannelError Segment :=
  match Name.normalize name with
  | .error e => .error (.invalidName name e)
  | .ok name =>
      match h.attach name hint with
      | .error e => .error e
      | .ok (id, size) => .ok ⟨name, some ⟨id, size⟩, false, false, false⟩

def remove (h : Host) (name : String) : Host :=
  match Name.normalize name with
  | .error _ => h
  | .ok name => (h.unlink name).2

def setUnlinkOnDrop (s : Segment) (enabled : Bool) : Segment :=
  { s with unlinkOnDrop := enabled }

/-- Removes the name, the first time it is called. Mappings stay. -/
def destroy (s : Segment) (h : Host) : Segment × Host :=
  if s.unlinked then (s, h)
  else
    let (removed, h) := h.unlink s.name
    ({ s with unlinked := true }, if removed then h.report (.segmentDestroyed s.name) else h)

/-- Gives up the mapping; nothing more happens to a segment that is closed already. -/
def close (s : Segment) (h : Host) : Segment × Host :=
  match s.mapping with
  | none => (s, h)
  | some _ =>
      let s := { s with mapping := none }
      if s.owner && s.unlinkOnDrop then s.destroy h else (s, h)

def drop (s : Segment) (h : Host) : Host := (s.close h).2

def isValid (s : Segment) : Bool := s.mapping.isSome

def size (s : Segment) : Nat := (s.mapping.map Mapping.size).getD 0

def base? (s : Segment) : Option Nat := s.mapping.map (fun _ => 0)

def load? (s : Segment) (h : Host) (start n : Nat) : Option Bytes :=
  if s.size < start + n then none
  else some ((s.mapping.map (fun p => (h.memory p.object).load start n)).getD #[])

def store? (s : Segment) (h : Host) (start : Nat) (src : Bytes) : Option Host :=
  if s.size < start + src.size then none
  else
    match s.mapping with
    | none => some h
    | some p => some (h.setMemory p.object ((h.memory p.object).store start src))

def describe (s : Segment) : String :=
  s!"Segment \x7b name: {Text.quote s.name}, size: {s.size}, owner: {s.owner}, " ++
    s!"unlink_on_drop: {s.unlinkOnDrop}, unlinked: {s.unlinked} \x7d"

end Segment

end SharedRing
