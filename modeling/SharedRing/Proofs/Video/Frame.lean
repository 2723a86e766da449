import SharedRing.Video.Frame

/-!
What a receiver finds in a frame as it was filled: its size, its index and the byte that it checks.
-/

namespace SharedRing.Video.Frame

@[simp] theorem size_stamp (frame : Bytes) (index : UInt32) :
    (stamp frame index).size = frame.size := by
  rw [stamp]
  split <;> simp

@[simp] theorem size_fill (size : Nat) (index : UInt32) : (fill size index).size = size := by
  simp [fill]

theorem getElem?_stamp {frame : Bytes} {index : UInt32} {i : Nat} (h : indexSize ≤ frame.size)
    (hi : i < 4) : (stamp frame index)[i]? = (bytesOfWord index)[i]? := by
  have hpos : 4 ≤ frame.size := h
  simp only [stamp, if_pos h, Array.getElem?_setIfInBounds, Array.size_setIfInBounds]
  obtain rfl | rfl | rfl | rfl : i = 0 ∨ i = 1 ∨ i = 2 ∨ i = 3 := by omega
  · simp [show 0 < frame.size by omega]
  · simp [show 1 < frame.size by omega]
  · simp [show 2 < frame.size by omega]
    rfl
  · simp [show 3 < frame.size by omega]
    rfl

/-- The index stands in the first bytes of a frame. -/
theorem readIndex?_stamp {frame : Bytes} (index : UInt32) (h : indexSize ≤ frame.size) :
    readIndex? (stamp frame index) = some index := by
  have hsize : 4 ≤ (stamp frame index).size := by rw [size_stamp]; exact h
  have hbyte (i : Nat) (hi : i < 4) (hi' : i < (bytesOfWord index).size) :
      (stamp frame index)[i] = (bytesOfWord index)[i] := by
    apply Option.some.inj
    rw [← Array.getElem?_eq_getElem, ← Array.getElem?_eq_getElem]
    exact getElem?_stamp h hi
  rw [readIndex?, dif_pos hsize, hbyte 0 (by decide) (by simp), hbyte 1 (by decide) (by simp),
    hbyte 2 (by decide) (by simp), hbyte 3 (by decide) (by simp), wordOfBytes_bytesOfWord]

/-- The bytes behind the index stay as they are. -/
theorem back?_stamp {frame : Bytes} (index : UInt32) (h : indexSize < frame.size) :
    (stamp frame index).back? = frame.back? := by
  have hlast (i : Nat) (hi : i < indexSize) : i ≠ frame.size - 1 := by omega
  rw [Array.back?, Array.back?, size_stamp, stamp, if_pos (Nat.le_of_lt h),
    Array.getElem?_setIfInBounds_ne (hlast 3 (by decide)),
    Array.getElem?_setIfInBounds_ne (hlast 2 (by decide)),
    Array.getElem?_setIfInBounds_ne (hlast 1 (by decide)),
    Array.getElem?_setIfInBounds_ne (hlast 0 (by decide))]

theorem readIndex?_fill {size : Nat} (index : UInt32) (h : indexSize ≤ size) :
    readIndex? (fill size index) = some index :=
  readIndex?_stamp index (by simpa using h)

/-- A frame as it was filled passes its check. -/
theorem isIntact_fill {size : Nat} (index : UInt32) (h : indexSize ≤ size) :
    isIntact (fill size index) index = true := by
  rw [isIntact, size_fill]
  split
  · rename_i hle
    exact decide_eq_true (Nat.le_antisymm hle h)
  · rename_i hlt
    rw [fill, back?_stamp index (by simpa using hlt), Array.back?, Array.size_replicate,
      Array.getElem?_replicate, if_pos (by omega)]
    exact decide_eq_true rfl

end SharedRing.Video.Frame
