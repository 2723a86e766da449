import SharedRing.Bytes

/-!
Synthetic frames. A frame is filled with the low byte of its index, and the whole index stands in
its first four bytes, least significant first. A receiver tells a frame by that index and checks
it by its last byte.
-/

namespace SharedRing.Video.Frame

def indexSize : Nat := 4

def lowByte (index : UInt32) : UInt8 := UInt8.ofNat index.toNat

/-- Writes the index into a frame; one that has no room for it stays as it is. -/
def stamp (frame : Bytes) (index : UInt32) : Bytes :=
  if indexSize ≤ frame.size then
    (((frame.setIfInBounds 0 (bytesOfWord index)[0]).setIfInBounds 1
      (bytesOfWord index)[1]).setIfInBounds 2 (bytesOfWord index)[2]).setIfInBounds 3
      (bytesOfWord index)[3]
  else frame

def fill (size : Nat) (index : UInt32) : Bytes :=
  stamp (Array.replicate size (lowByte index)) index

def readIndex? (frame : Bytes) : Option UInt32 :=
  if h : 4 ≤ frame.size then some (wordOfBytes frame[0] frame[1] frame[2] frame[3]) else none

/-- The last byte is the one the index asks for. Of frames without one, only those of exactly the
size of the index pass. -/
def isIntact (frame : Bytes) (index : UInt32) : Bool :=
  if frame.size ≤ indexSize then frame.size = indexSize
  else frame.back? = some (lowByte index)

end SharedRing.Video.Frame
