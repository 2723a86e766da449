import SharedRing.Bytes

/-!
Byte memory. All addresses hold zero until something is stored there, and only what was stored
takes room. The view is `Memory.byte`, and `byte_store` says what a store does to it: the stored
bytes at their addresses, the old ones everywhere else. Words are four bytes, least significant
first.
-/

namespace SharedRing

structure Block where
  start : Nat
  bytes : Bytes

namespace Block

def byte? (b : Block) (i : Nat) : Option UInt8 :=
  if b.start ≤ i then b.bytes[i - b.start]? else none

def isWithin (b c : Block) : Bool :=
  c.start ≤ b.start && b.start + b.bytes.size ≤ c.start + c.bytes.size

theorem byte?_eq_none_iff {b : Block} {i : Nat} :
    b.byte? i = none ↔ i < b.start ∨ b.start + b.bytes.size ≤ i := by
  unfold byte?
  split
  · rw [Array.getElem?_eq_none_iff]
    omega
  · simp only [true_iff]
    omega

end Block

/-- Stored blocks, the newest first. -/
structure Memory where
  blocks : List Block

namespace Memory

def zeroed : Memory := ⟨[]⟩

def byte (m : Memory) (i : Nat) : UInt8 :=
  (m.blocks.findSome? (·.byte? i)).getD 0

/-- Blocks that the new bytes cover wholly are forgotten. -/
def store (m : Memory) (a : Nat) (src : Bytes) : Memory :=
  ⟨⟨a, src⟩ :: m.blocks.filter (fun b => !b.isWithin ⟨a, src⟩)⟩

def load (m : Memory) (a n : Nat) : Bytes :=
  Array.ofFn (fun i : Fin n => m.byte (a + i))

def word (m : Memory) (a : Nat) : UInt32 :=
  wordOfBytes (m.byte a) (m.byte (a + 1)) (m.byte (a + 2)) (m.byte (a + 3))

def storeWord (m : Memory) (a : Nat) (w : UInt32) : Memory :=
  m.store a (bytesOfWord w)

@[simp] theorem byte_zeroed (i : Nat) : zeroed.byte i = 0 := rfl

theorem findSome?_filter_isWithin (bs : List Block) (c : Block) (i : Nat)
    (h : c.byte? i = none) :
    (bs.filter (fun b => !b.isWithin c)).findSome? (·.byte? i) = bs.findSome? (·.byte? i) := by
  induction bs with
  | nil => rfl
  | cons b bs ih =>
      cases hb : b.isWithin c with
      | false => simp [hb, ih, List.findSome?_cons]
      | true =>
          have hnone : b.byte? i = none := by
            rw [Block.byte?_eq_none_iff] at h ⊢
            simp only [Block.isWithin, Bool.and_eq_true, decide_eq_true_eq] at hb
            omega
          simp [hb, ih, hnone]

/-- A store is seen at its own addresses and nowhere else. -/
theorem byte_store (m : Memory) (a : Nat) (src : Bytes) (i : Nat) :
    (m.store a src).byte i = ((⟨a, src⟩ : Block).byte? i).getD (m.byte i) := by
  unfold byte store
  rw [List.findSome?_cons]
  cases h : (⟨a, src⟩ : Block).byte? i with
  | some v => rfl
  | none => simp only [findSome?_filter_isWithin _ _ _ h, Option.getD_none]

theorem byte_store_of_lt {m : Memory} {a : Nat} {src : Bytes} {i : Nat} (h : i < src.size) :
    (m.store a src).byte (a + i) = src[i] := by
  rw [byte_store]
  simp [Block.byte?, h]

theorem byte_store_of_outside {m : Memory} {a : Nat} {src : Bytes} {i : Nat}
    (h : i < a ∨ a + src.size ≤ i) : (m.store a src).byte i = m.byte i := by
  rw [byte_store, Block.byte?_eq_none_iff.2 h, Option.getD_none]

@[simp] theorem load_size (m : Memory) (a n : Nat) : (m.load a n).size = n := by
  simp [load]

@[simp] theorem load_getElem (m : Memory) (a n i : Nat) (h : i < (m.load a n).size) :
    (m.load a n)[i] = m.byte (a + i) := by
  simp [load]

@[simp] theorem word_storeWord (m : Memory) (a : Nat) (w : UInt32) :
    (m.storeWord a w).word a = w := by
  have h₀ : (m.store a (bytesOfWord w)).byte (a + 0) = (bytesOfWord w)[0] :=
    byte_store_of_lt (by simp)
  have h₁ : (m.store a (bytesOfWord w)).byte (a + 1) = (bytesOfWord w)[1] :=
    byte_store_of_lt (by simp)
  have h₂ : (m.store a (bytesOfWord w)).byte (a + 2) = (bytesOfWord w)[2] :=
    byte_store_of_lt (by simp)
  have h₃ : (m.store a (bytesOfWord w)).byte (a + 3) = (bytesOfWord w)[3] :=
    byte_store_of_lt (by simp)
  rw [Nat.add_zero] at h₀
  rw [word, storeWord, h₀, h₁, h₂, h₃]
  exact wordOfBytes_bytesOfWord w

theorem word_store_of_disjoint {m : Memory} {a b : Nat} {src : Bytes}
    (h : b + 4 ≤ a ∨ a + src.size ≤ b) : (m.store a src).word b = m.word b := by
  simp only [word]
  rw [byte_store_of_outside (by omega), byte_store_of_outside (by omega),
    byte_store_of_outside (by omega), byte_store_of_outside (by omega)]

theorem word_storeWord_of_disjoint {m : Memory} {a b : Nat} {w : UInt32}
    (h : b + 4 ≤ a ∨ a + 4 ≤ b) : (m.storeWord a w).word b = m.word b :=
  word_store_of_disjoint h

end Memory

end SharedRing
