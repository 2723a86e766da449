import Mathlib.Algebra.Ring.Nat
import SharedRing.Ring.Transfer

/-!
The data area as a stream of bytes. A cursor that is never reduced stands for the byte
`byteAt`, and comes round to the same byte after every lap of the area; since a lap divides
`2 ^ 32`, the cursors of the header, which are reduced modulo `2 ^ 32`, stand for the same bytes.

Copying in two parts is copying byte by byte along the stream (`byteAt_copyIn`, `toList_copyOut`),
and a write lays a whole frame into it (`byteAt_appendMessage`). Nothing here asks that the cursors
or the bytes in the area are ones a producer would have left there.
-/

namespace SharedRing

theorem Capacity.size_dvd (c : Capacity) : c.size ∣ 2 ^ 32 :=
  Nat.pow_dvd_pow 2 (Nat.le_of_lt c.log_lt)

/-- A cursor and a distance shorter than a lap wrap at most once. -/
theorem Capacity.add_mod_size (c : Capacity) (pos : UInt32) {i : Nat} (hi : i < c.size) :
    (pos.toNat + i) % c.size =
      if c.offset pos + i < c.size then c.offset pos + i else c.offset pos + i - c.size := by
  have hpos := c.offset_lt pos
  rw [← Nat.mod_add_mod, ← c.offset_eq]
  split
  · exact Nat.mod_eq_of_lt ‹_›
  · rw [Nat.mod_eq_sub_mod (by omega), Nat.mod_eq_of_lt (by omega)]

namespace Memory

theorem byte_store_of_le {m : Memory} {a : Nat} {src : Bytes} {i : Nat} (ha : a ≤ i)
    (h : i - a < src.size) : (m.store a src).byte i = src[i - a] := by
  have hi : a + (i - a) = i := by omega
  rw [← byte_store_of_lt (m := m) (a := a) h, hi]

theorem word_congr {m m' : Memory} {a : Nat} (h : ∀ i, a ≤ i → i < a + 4 → m'.byte i = m.byte i) :
    m'.word a = m.word a := by
  simp only [word]
  rw [h a (by omega) (by omega), h (a + 1) (by omega) (by omega), h (a + 2) (by omega) (by omega),
    h (a + 3) (by omega) (by omega)]

end Memory

namespace Ring

variable (r : Ring) (m : Memory)

/-- The byte of the data area that an unreduced cursor stands for. -/
def byteAt (k : Nat) : UInt8 := m.byte (r.data + k % r.capacity.size)

def stream (k n : Nat) : List UInt8 := (List.range' k n).map (r.byteAt m)

@[simp] theorem byteAt_add_size (k : Nat) : r.byteAt m (k + r.capacity.size) = r.byteAt m k := by
  rw [byteAt, byteAt, Nat.add_mod_right]

/-- Reducing a cursor as the header does keeps its byte. -/
theorem byteAt_mod_word (k i : Nat) : r.byteAt m (k % 2 ^ 32 + i) = r.byteAt m (k + i) := by
  rw [byteAt, byteAt, Nat.add_mod, Nat.mod_mod_of_dvd _ r.capacity.size_dvd, ← Nat.add_mod]

theorem byteAt_add_ofNat (pos : UInt32) (n i : Nat) :
    r.byteAt m ((pos + UInt32.ofNat n).toNat + i) = r.byteAt m (pos.toNat + n + i) := by
  rw [UInt32.toNat_add, UInt32.toNat_ofNat', byteAt_mod_word, Nat.add_right_comm,
    Nat.add_comm _ (n % _), byteAt_mod_word]
  congr 1
  omega

@[simp] theorem stream_length (k n : Nat) : (r.stream m k n).length = n := by
  simp [stream]

@[simp] theorem stream_zero (k : Nat) : r.stream m k 0 = [] := rfl

theorem stream_getElem (k n i : Nat) (hi : i < (r.stream m k n).length) :
    (r.stream m k n)[i] = r.byteAt m (k + i) := by
  simp [stream]

theorem stream_add (k a b : Nat) :
    r.stream m k (a + b) = r.stream m k a ++ r.stream m (k + a) b := by
  simp only [stream, ← List.map_append, List.range'_append_1]

variable {r m}

theorem stream_congr {r' : Ring} {m' : Memory} {k k' n : Nat}
    (h : ∀ i, i < n → r'.byteAt m' (k' + i) = r.byteAt m (k + i)) :
    r'.stream m' k' n = r.stream m k n := by
  apply List.ext_getElem
  · simp
  · intro i hi _
    rw [stream_getElem, stream_getElem]
    exact h i (by simpa using hi)

theorem stream_add_ofNat (pos : UInt32) (a n : Nat) :
    r.stream m (pos + UInt32.ofNat a).toNat n = r.stream m (pos.toNat + a) n :=
  stream_congr fun i _ => byteAt_add_ofNat r m pos a i

/-! ### Copies in two parts -/

theorem byte_copyIn_of_outside {pos : UInt32} {src : Bytes} {i : Nat}
    (hsrc : src.size ≤ r.capacity.size) (hi : i < r.data ∨ r.data + r.capacity.size ≤ i) :
    (r.copyIn m pos src).byte i = m.byte i := by
  have hpos := r.capacity.offset_lt pos
  unfold copyIn
  dsimp only
  split
  · exact Memory.byte_store_of_outside (by omega)
  · rw [Memory.byte_store_of_outside (by simp; omega),
      Memory.byte_store_of_outside (by simp; omega)]

/-- Copying in changes the bytes of the stream from the cursor on, and no others. -/
theorem byteAt_copyIn {pos : UInt32} {src : Bytes} {i : Nat} (hsrc : src.size ≤ r.capacity.size)
    (hi : i < r.capacity.size) :
    r.byteAt (r.copyIn m pos src) (pos.toNat + i) =
      if h : i < src.size then src[i] else r.byteAt m (pos.toNat + i) := by
  have hpos := r.capacity.offset_lt pos
  unfold byteAt copyIn
  dsimp only
  rw [r.capacity.add_mod_size pos hi]
  -- whether the copy wraps, whether this byte lies behind the wrap, whether it is copied
  split <;> split <;> split
  · rw [Memory.byte_store_of_le (by omega) (by omega)]
    congr 1
    omega
  · exact Memory.byte_store_of_outside (by omega)
  · omega
  · exact Memory.byte_store_of_outside (by omega)
  · rw [Memory.byte_store_of_outside (by simp; omega),
      Memory.byte_store_of_le (by omega) (by simp; omega), Array.getElem_extract]
    congr 1
    omega
  · rw [Memory.byte_store_of_outside (by simp; omega),
      Memory.byte_store_of_outside (by simp; omega)]
  · rw [Memory.byte_store_of_le (by omega) (by simp; omega), Array.getElem_extract]
    congr 1
    omega
  · rw [Memory.byte_store_of_outside (by simp; omega),
      Memory.byte_store_of_outside (by simp; omega)]

@[simp] theorem size_copyOut (pos : UInt32) (n : Nat) : (r.copyOut m pos n).size = n := by
  unfold copyOut
  dsimp only
  split
  · simp
  · simp
    omega

/-- A part of the stream that stays in front of the end of the area lies there in one piece. -/
theorem stream_eq_load {k n : Nat} (h : k % r.capacity.size + n ≤ r.capacity.size) :
    r.stream m k n = (m.load (r.data + k % r.capacity.size) n).toList := by
  apply List.ext_getElem
  · simp
  · intro i hi _
    have hin : i < n := by simpa using hi
    have hmod : (k + i) % r.capacity.size = k % r.capacity.size + i := by
      rw [← Nat.mod_add_mod, Nat.mod_eq_of_lt (by omega)]
    rw [stream_getElem, byteAt, hmod, Array.getElem_toList, Memory.load_getElem, Nat.add_assoc]

/-- Copying out reads the stream from the cursor on. -/
theorem toList_copyOut {pos : UInt32} {n : Nat} (hn : n ≤ r.capacity.size) :
    (r.copyOut m pos n).toList = r.stream m pos.toNat n := by
  have hpos := r.capacity.offset_lt pos
  unfold copyOut
  dsimp only
  rw [r.capacity.offset_eq] at hpos ⊢
  split
  · rw [stream_eq_load (by omega)]
  · have hn' : n = (r.capacity.size - pos.toNat % r.capacity.size) +
        (n - (r.capacity.size - pos.toNat % r.capacity.size)) := by omega
    have hlap : (pos.toNat + (r.capacity.size - pos.toNat % r.capacity.size)) %
        r.capacity.size = 0 := by
      rw [← Nat.mod_add_mod, Nat.add_sub_cancel' (Nat.le_of_lt hpos), Nat.mod_self]
    rw [Array.toList_append, ← stream_eq_load (by omega)]
    conv => rhs; rw [hn', stream_add]
    rw [stream_eq_load (k := pos.toNat + _) (by omega), hlap, Nat.add_zero]

/-! ### Moving a cursor -/

theorem byte_setHead_of_outside {pos : UInt32} {i : Nat} (hi : i < r.base ∨ r.base + 4 ≤ i) :
    (r.setHead m pos).byte i = m.byte i :=
  Memory.byte_store_of_outside (by simpa [Header.headAt] using hi)

theorem byte_setTail_of_outside {pos : UInt32} {i : Nat} (hi : i < r.base + 4 ∨ r.base + 8 ≤ i) :
    (r.setTail m pos).byte i = m.byte i :=
  Memory.byte_store_of_outside (by simpa [Header.tailAt] using hi)

theorem word_setHead {pos : UInt32} {a : Nat} (h : a + 4 ≤ r.base ∨ r.base + 4 ≤ a) :
    (r.setHead m pos).word a = m.word a :=
  Memory.word_storeWord_of_disjoint (by simpa [Header.headAt] using h)

theorem word_setTail {pos : UInt32} {a : Nat} (h : a ≤ r.base ∨ r.base + 8 ≤ a) :
    (r.setTail m pos).word a = m.word a :=
  Memory.word_storeWord_of_disjoint (by simpa [Header.tailAt] using h)

@[simp] theorem byteAt_setHead (pos : UInt32) (k : Nat) :
    r.byteAt (r.setHead m pos) k = r.byteAt m k :=
  byte_setHead_of_outside (by simp only [data, Header.size]; omega)

@[simp] theorem byteAt_setTail (pos : UInt32) (k : Nat) :
    r.byteAt (r.setTail m pos) k = r.byteAt m k :=
  byte_setTail_of_outside (by simp only [data, Header.size]; omega)

theorem toNat_skip (pos : UInt32) (n : Nat) :
    (skip pos n).toNat = (pos.toNat + n + lengthSize) % 2 ^ 32 := by
  simp only [skip, UInt32.toNat_add, UInt32.toNat_ofNat', Nat.add_assoc, Nat.add_mod_mod]

/-! ### Frames -/

theorem size_bytesOfWord_le (r : Ring) (w : UInt32) : (bytesOfWord w).size ≤ r.capacity.size := by
  have h := r.capacity.eight_le_size
  rw [bytesOfWord_size]
  omega

/-- A message as it lies in the ring: its length, least significant byte first, and its bytes. -/
def frame (msg : Bytes) : Bytes := bytesOfWord (UInt32.ofNat msg.size) ++ msg

@[simp] theorem size_frame (msg : Bytes) : (frame msg).size = msg.size + lengthSize := by
  simp [frame, lengthSize, Nat.add_comm]

variable {msg : Bytes}

@[simp] theorem head_appendMessage :
    r.head (r.appendMessage m msg) = skip (r.head m) msg.size :=
  head_setHead ..

/-- An accepted message changes the head cursor and the data area, and nothing else. -/
theorem byte_appendMessage_of_outside {i : Nat} (hmsg : msg.size + lengthSize ≤ r.capacity.size)
    (hhead : i < r.base ∨ r.base + 4 ≤ i) (hdata : i < r.data ∨ r.data + r.capacity.size ≤ i) :
    (r.appendMessage m msg).byte i = m.byte i := by
  unfold appendMessage
  dsimp only
  rw [byte_setHead_of_outside hhead, byte_copyIn_of_outside (by omega) hdata,
    byte_copyIn_of_outside (r.size_bytesOfWord_le _) hdata]

theorem word_appendMessage {a : Nat} (hmsg : msg.size + lengthSize ≤ r.capacity.size)
    (hhead : r.base + 4 ≤ a) (hdata : a + 4 ≤ r.data) :
    (r.appendMessage m msg).word a = m.word a :=
  Memory.word_congr fun _ _ _ =>
    byte_appendMessage_of_outside hmsg (Or.inr (by omega)) (Or.inl (by omega))

@[simp] theorem tail_appendMessage (hmsg : msg.size + lengthSize ≤ r.capacity.size) :
    r.tail (r.appendMessage m msg) = r.tail m :=
  word_appendMessage hmsg (by simp [Header.tailAt]) (by simp [Header.tailAt, data, Header.size])

/-- An accepted message lies as a frame in the stream, from the head on. -/
theorem byteAt_appendMessage {i : Nat} (hmsg : msg.size + lengthSize ≤ r.capacity.size)
    (hi : i < r.capacity.size) :
    r.byteAt (r.appendMessage m msg) ((r.head m).toNat + i) =
      if h : i < (frame msg).size then (frame msg)[i] else r.byteAt m ((r.head m).toNat + i) := by
  simp only [appendMessage, byteAt_setHead]
  by_cases hlen : i < lengthSize
  · -- the payload starts four bytes further on, so seen from there this byte ends the lap
    have hlap : r.byteAt (r.copyIn (r.copyIn m (r.head m) (bytesOfWord (UInt32.ofNat msg.size)))
          (r.head m + UInt32.ofNat lengthSize) msg) ((r.head m).toNat + i) =
        r.byteAt (r.copyIn m (r.head m) (bytesOfWord (UInt32.ofNat msg.size)))
          ((r.head m).toNat + i) := by
      have hback : (r.head m).toNat + lengthSize + (r.capacity.size - lengthSize + i) =
          (r.head m).toNat + i + r.capacity.size := by omega
      rw [← byteAt_add_size, ← hback, ← byteAt_add_ofNat, byteAt_copyIn (by omega) (by omega),
        dif_neg (by omega), byteAt_add_ofNat, hback, byteAt_add_size]
    rw [hlap, byteAt_copyIn (r.size_bytesOfWord_le _) hi,
      dif_pos (by simpa [lengthSize] using hlen), dif_pos (by rw [size_frame]; omega)]
    simp only [frame]
    rw [Array.getElem_append_left]
  · have hsplit : (r.head m).toNat + i = (r.head m).toNat + lengthSize + (i - lengthSize) := by
      omega
    rw [hsplit, ← byteAt_add_ofNat, byteAt_copyIn (by omega) (by omega)]
    split
    · rw [dif_pos (by rw [size_frame]; omega)]
      simp only [frame]
      rw [Array.getElem_append_right (by simpa [lengthSize] using hlen)]
      rfl
    · rw [dif_neg (by rw [size_frame]; omega), byteAt_add_ofNat, ← hsplit,
        byteAt_copyIn (r.size_bytesOfWord_le _) hi, dif_neg (by simpa [lengthSize] using hlen)]

end Ring

end SharedRing
