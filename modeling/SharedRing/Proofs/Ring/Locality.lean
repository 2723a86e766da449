import SharedRing.Proofs.Ring.Stream

/-!
The bytes that a ring has to do with are those of its header and its data area (`Ring.Covers`). No
transfer changes any others, and on memories that are alike there (`Ring.Alike`) a transfer gives
the same and leaves them alike. The memory may hold anything: what bounds a transfer is the capacity
that was found when the ring was bound, and the checks made on cursors and lengths.
-/

namespace SharedRing.Ring

variable {r : Ring} {m m' : Memory} {a n : Nat} {msg : Bytes}

def Covers (r : Ring) (a : Nat) : Prop :=
  r.base ≤ a ∧ a < r.base + (Header.size + r.capacity.size)

/-- Two memories that hold the same bytes in the ring's part. -/
def Alike (r : Ring) (m m' : Memory) : Prop := ∀ a, r.Covers a → m'.byte a = m.byte a

/-- A length that is delivered was checked against the capacity. -/
theorem le_size_of_nextLength? (h : r.nextLength? m = some n) :
    n + lengthSize ≤ r.capacity.size := by
  rw [nextLength?] at h
  split at h
  · cases h
  · dsimp only at h
    split at h
    · cases h
    · rename_i hchecks
      simp only [Bool.or_eq_true, decide_eq_true_eq, not_or, Nat.not_lt] at hchecks
      cases h
      exact hchecks.2

/-- A message that is written has been checked against it as well. -/
theorem le_size_of_le_writable (h : ¬r.writable m < n) : n ≤ r.capacity.size :=
  Nat.le_trans (Nat.le_of_not_lt h) (Nat.sub_le _ _)

/-! ### What is changed -/

theorem byte_setTail_of_not_covers (ha : ¬r.Covers a) (pos : UInt32) :
    (r.setTail m pos).byte a = m.byte a := by
  simp only [Covers, Header.size] at ha
  exact byte_setTail_of_outside (by omega)

theorem byte_write_of_not_covers (ha : ¬r.Covers a) (msg : Bytes) :
    (r.write m msg).2.byte a = m.byte a := by
  rw [write]
  split
  · rfl
  · rename_i hfits
    simp only [Bool.or_eq_true, decide_eq_true_eq, not_or] at hfits
    simp only [Covers] at ha
    exact byte_appendMessage_of_outside (le_size_of_le_writable hfits.2)
      (by simp only [Header.size] at ha; omega) (by simp only [data]; omega)

theorem byte_read_of_not_covers (ha : ¬r.Covers a) (out : Bytes) :
    (r.read m out).memory.byte a = m.byte a := by
  rw [read_memory]
  split
  · rfl
  · exact byte_setTail_of_not_covers ha _

theorem byte_readMessage_of_not_covers (ha : ¬r.Covers a) :
    (r.readMessage m).2.byte a = m.byte a := by
  rw [readMessage]
  split
  · rfl
  · exact byte_setTail_of_not_covers ha _

/-! ### What matters -/

namespace Alike

theorem store (h : r.Alike m m') (a : Nat) (src : Bytes) :
    r.Alike (m.store a src) (m'.store a src) := by
  intro i hi
  rw [Memory.byte_store, Memory.byte_store, h i hi]

theorem head (h : r.Alike m m') : r.head m' = r.head m :=
  Memory.word_congr fun i hlo hhi => h i (by
    simp only [Covers, Header.headAt, Header.size] at *
    omega)

theorem tail (h : r.Alike m m') : r.tail m' = r.tail m :=
  Memory.word_congr fun i hlo hhi => h i (by
    simp only [Covers, Header.tailAt, Header.size] at *
    omega)

theorem readable (h : r.Alike m m') : r.readable m' = r.readable m := by
  rw [Ring.readable, Ring.readable, h.head, h.tail]

theorem writable (h : r.Alike m m') : r.writable m' = r.writable m := by
  rw [Ring.writable, Ring.writable, h.readable]

theorem hasData (h : r.Alike m m') : r.hasData m' = r.hasData m := by
  rw [Ring.hasData, Ring.hasData, h.readable]

theorem copyOut (h : r.Alike m m') {pos : UInt32} (hn : n ≤ r.capacity.size) :
    r.copyOut m' pos n = r.copyOut m pos n := by
  apply Array.toList_inj.1
  rw [toList_copyOut hn, toList_copyOut hn]
  apply stream_congr
  intro i _
  have hlap := Nat.mod_lt (pos.toNat + i) r.capacity.size_pos
  exact h _ ⟨by simp only [data]; omega, by simp only [data]; omega⟩

theorem copyIn (h : r.Alike m m') (pos : UInt32) (src : Bytes) :
    r.Alike (r.copyIn m pos src) (r.copyIn m' pos src) := by
  simp only [Ring.copyIn]
  split
  · exact h.store _ _
  · exact (h.store _ _).store _ _

theorem appendMessage (h : r.Alike m m') (msg : Bytes) :
    r.Alike (r.appendMessage m msg) (r.appendMessage m' msg) := by
  simp only [Ring.appendMessage, h.head]
  exact ((h.copyIn _ _).copyIn _ _).store _ _

theorem dropMessage (h : r.Alike m m') (n : Nat) :
    r.Alike (r.dropMessage m n) (r.dropMessage m' n) := by
  rw [Ring.dropMessage, Ring.dropMessage, h.tail]
  exact h.store _ _

theorem nextLength? (h : r.Alike m m') : r.nextLength? m' = r.nextLength? m := by
  have hfield : lengthSize ≤ r.capacity.size := Nat.le_trans (by decide) r.capacity.eight_le_size
  have hlength : r.lengthAtTail m' = r.lengthAtTail m := by
    simp only [lengthAtTail, h.tail, h.copyOut hfield]
  rw [Ring.nextLength?, Ring.nextLength?, h.readable, hlength]

theorem messageAtTail (h : r.Alike m m') (hn : n ≤ r.capacity.size) :
    r.messageAtTail m' n = r.messageAtTail m n := by
  rw [Ring.messageAtTail, Ring.messageAtTail, h.tail, h.copyOut hn]

theorem write (h : r.Alike m m') (msg : Bytes) :
    (r.write m' msg).1 = (r.write m msg).1 ∧
      r.Alike (r.write m msg).2 (r.write m' msg).2 := by
  rw [Ring.write, Ring.write, h.writable]
  split
  · exact ⟨rfl, h⟩
  · exact ⟨rfl, h.appendMessage msg⟩

theorem read (h : r.Alike m m') (out : Bytes) :
    (r.read m' out).length = (r.read m out).length ∧ (r.read m' out).out = (r.read m out).out ∧
      r.Alike (r.read m out).memory (r.read m' out).memory := by
  rw [Ring.read, Ring.read, h.nextLength?]
  split
  · exact ⟨rfl, rfl, h⟩
  · rename_i n hn
    have hsize := le_size_of_nextLength? hn
    split
    · exact ⟨rfl, rfl, h.dropMessage n⟩
    · exact ⟨rfl, by rw [h.messageAtTail (by omega)], h.dropMessage n⟩

theorem readMessage (h : r.Alike m m') :
    (r.readMessage m').1 = (r.readMessage m).1 ∧
      r.Alike (r.readMessage m).2 (r.readMessage m').2 := by
  rw [Ring.readMessage, Ring.readMessage, h.nextLength?]
  split
  · exact ⟨rfl, h⟩
  · rename_i n hn
    have hsize := le_size_of_nextLength? hn
    exact ⟨by rw [h.messageAtTail (by omega)], h.dropMessage n⟩

end Alike

end SharedRing.Ring
